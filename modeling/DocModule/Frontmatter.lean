import DocModule.Props
import DocModule.Text.Blank
import DocModule.Text.Joined
import DocModule.Yaml.Document

namespace DocModule.Frontmatter

open Text

-- Why a text gives no properties: it cannot be read, or what it holds is not a mapping.
inductive Error where
  | unreadable
  | notMapping
  deriving DecidableEq, Repr

-- Why a text cannot be read is not kept. What follows the colon there is the library's own wording,
-- and nothing depends on it.
def Error.message : Error → String
  | .unreadable => "Frontmatter parse error: the text is not one readable YAML document"
  | .notMapping => "Frontmatter must be a YAML mapping at the top level"

-- The properties that the doc comment shows, in its order.
def recognizedKeys : List String :=
  ["title", "author", "repository", "license", "version", "tiniaVersion"]

def attribution : String :=
  " *  ** this file was system generated by @tinia/tdx **"

-- The line of one property, which there is if it has a text that is not empty.
def docLine? (props : Props) (key : String) : Option String :=
  match props.get? key with
  | some text => if text = "" then none else some (" * " ++ key ++ ": " ++ text)
  | none => none

def docComment (props : Props) : String :=
  stacked ("/**" :: (recognizedKeys.filterMap (docLine? props) ++ [attribution, " */"]))

-- The members that have a text: strings, numbers and booleans. The last member of a name counts.
def propsOfMembers (members : List (String × Json)) : Props :=
  Props.ofPairs (members.map fun member => (member.1, member.2.scalarText?))

def propsOfJson : Json → Except Error Props
  | .null => .ok ∅
  | .object members => .ok (propsOfMembers members)
  | _ => .error .notMapping

-- The properties that a YAML text gives by the value that it is read as. A blank text gives none.
def parse (src : String) (read : String → Option Yaml.Value := Yaml.Value.parse?) :
    Except Error Props :=
  if trim src.toList = [] then .ok ∅
  else
    match (read src).bind Yaml.Value.toJson? with
    | some value => propsOfJson value
    | none => .error .unreadable

end DocModule.Frontmatter
