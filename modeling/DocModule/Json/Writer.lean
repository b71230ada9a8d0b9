import DocModule.Json.Basic
import DocModule.Text.Quoted
import DocModule.Text.Joined

namespace DocModule.Json

open Text

mutual

-- The text of a value without any space.
def write : Json → String
  | .null => "null"
  | .bool value => boolText value
  | .number value => value.text
  | .string value => Quoted.literal value
  | .array items => "[" ++ joined "," (writeItems items) ++ "]"
  | .object members => "\x7b" ++ joined "," (writeMembers members) ++ "\x7d"

def writeItems : List Json → List String
  | [] => []
  | item :: rest => write item :: writeItems rest

def writeMembers : List (String × Json) → List String
  | [] => []
  | (name, value) :: rest => (Quoted.literal name ++ ":" ++ write value) :: writeMembers rest

end

end DocModule.Json
