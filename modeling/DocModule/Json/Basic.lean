import DocModule.Decimal.Layout
import DocModule.Text.Shown

namespace DocModule

-- A number as it is held: an integer of 64 bits, or else a floating point number.
inductive Number where
  | int (value : Int)
  | float (value : Decimal.Binary64)
  deriving DecidableEq, Repr

-- Numbers with a first digit between 10 ^ -5 and 10 ^ 15 are written without an exponent.
def Number.layout : Decimal.Layout :=
  ⟨-5, 15⟩

def Number.text : Number → String
  | .int value => toString value
  | .float value => Number.layout.write value

def boolText (b : Bool) : String :=
  if b then "true" else "false"

-- A JSON value. The members of an object stand in the order of the text, and a name may occur
-- more than once.
inductive Json where
  | null
  | bool (value : Bool)
  | number (value : Number)
  | string (value : String)
  | array (items : List Json)
  | object (members : List (String × Json))

namespace Json

-- The value of a name in an object: the last member of that name counts.
def lookup (name : String) (members : List (String × Json)) : Option Json :=
  (members.reverse.find? (·.1 = name)).map (·.2)

def field? (name : String) : Json → Option Json
  | .object members => lookup name members
  | _ => none

def string? : Json → Option String
  | .string value => some value
  | _ => none

-- The text of a string, number or boolean; the other values have none.
def scalarText? : Json → Option String
  | .string value => some value
  | .number value => some value.text
  | .bool value => some (boolText value)
  | .null | .array _ | .object _ => none

-- What a value is, in the words of a message that refuses it.
def describe : Json → String
  | .null => "null"
  | .bool value => "boolean `" ++ boolText value ++ "`"
  | .number (.int value) => "integer `" ++ toString value ++ "`"
  | .number (.float value) => "floating point `" ++ (Number.float value).text ++ "`"
  | .string value => "string " ++ Text.shown value
  | .array _ => "sequence"
  | .object _ => "map"

end Json

end DocModule
