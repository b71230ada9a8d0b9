import DocModule.Json.Basic
import DocModule.Text.Quoted
import DocModule.Yaml.Token

namespace DocModule.Yaml

-- A value of a document. A tag of the document's own is kept with its name.
inductive Value where
  | null
  | bool (value : Bool)
  | int (value : Int)
  | float (value : Decimal.Binary64)
  | notFinite
  | string (text : String)
  | sequence (items : List Value)
  | mapping (pairs : List (Value × Value))
  | tagged (tag : String) (content : Value)

namespace Value

def null? (text : String) : Option Value :=
  if text ∈ ["null", "Null", "NULL", "~"] then some .null else none

def bool? (text : String) : Option Value :=
  if text ∈ ["true", "True", "TRUE"] then some (.bool true)
  else if text ∈ ["false", "False", "FALSE"] then some (.bool false)
  else none

-- The number that digits of a base spell; there is at least one.
def natural? (base : Nat) (digits : List Char) : Option Nat :=
  if digits.isEmpty then none
  else digits.foldlM
    (fun n c => do
      let d ← Text.Quoted.hexValue? c
      if d < base then some (n * base + d) else none) 0

def isZeroLed (digits : List Char) : Bool :=
  digits.length > 1 && digits.head? == some '0' && digits.all Char.isDigit

-- A magnitude: decimal digits without a zero in front, or a mark of another base and digits of it.
def magnitude? : List Char → Option Nat
  | '0' :: 'x' :: digits => natural? 16 digits
  | '0' :: 'o' :: digits => natural? 8 digits
  | '0' :: 'b' :: digits => natural? 2 digits
  | digits => if isZeroLed digits then none else natural? 10 digits

def integer? (text : String) : Option Int :=
  match text.toList with
  | '+' :: rest => (magnitude? rest).map (↑·)
  | '-' :: rest => (magnitude? rest).map (-↑·)
  | cs => (magnitude? cs).map (↑·)

-- Integers of 64 bits, signed or unsigned, are kept; up to 128 bits they are refused, and beyond that
-- they are not taken for integers.
inductive Width where
  | fits
  | wide
  | huge
  deriving DecidableEq

def width (n : Int) : Width :=
  if -(Nat.pow 2 63 : Int) ≤ n ∧ n < Nat.pow 2 64 then .fits
  else if -(Nat.pow 2 127 : Int) ≤ n ∧ n < Nat.pow 2 128 then .wide
  else .huge

-- Digits with a point among, before or after them, and a power of ten after a mark.
def decimal? (negative : Bool) (cs : List Char) : Option Decimal.Binary64 :=
  let whole := cs.takeWhile Char.isDigit
  let rest := cs.dropWhile Char.isDigit
  let (part, rest) := match rest with
    | '.' :: rest => (rest.takeWhile Char.isDigit, rest.dropWhile Char.isDigit)
    | rest => ([], rest)
  let power? : Option Int := match rest with
    | [] => some 0
    | 'e' :: '-' :: rest | 'E' :: '-' :: rest => (natural? 10 rest).map (-↑·)
    | 'e' :: '+' :: rest | 'E' :: '+' :: rest => (natural? 10 rest).map (↑·)
    | 'e' :: rest | 'E' :: rest => (natural? 10 rest).map (↑·)
    | _ => none
  do
    let power ← power?
    let digits ← natural? 10 (whole ++ part)
    Decimal.Binary64.ofDecimal? negative digits (power - part.length)

def float? (text : String) : Option Value :=
  let finite (negative : Bool) (cs : List Char) : Option Value :=
    (decimal? negative cs).map .float
  if text ∈ [".inf", ".Inf", ".INF", "+.inf", "+.Inf", "+.INF", "-.inf", "-.Inf", "-.INF",
      ".nan", ".NaN", ".NAN"] then some .notFinite
  else
    match text.toList with
    | '+' :: rest => finite false rest
    | '-' :: rest => finite true rest
    | cs => finite false cs

-- A scalar without quotes and tag is what it looks like: null, a boolean, an integer, a floating point
-- number or else a string.
def ofPlain? (text : String) : Option Value :=
  let other : Option Value :=
    let digits := match text.toList with
      | '+' :: rest | '-' :: rest => rest
      | cs => cs
    if isZeroLed digits then some (.string text) else (float? text).or (some (.string text))
  if text.isEmpty then some .null
  else
    match (null? text).or (bool? text) with
    | some value => some value
    | none =>
        match integer? text with
        | none => other
        | some n =>
            match width n with
            | .fits => some (.int n)
            | .wide => none
            | .huge => other

def int? (text : String) : Option Value := do
  let n ← integer? text
  if width n = .fits then some (.int n) else none

def coreTag (name : String) : Tag :=
  Tag.ofString ("tag:yaml.org,2002:" ++ name)

-- A scalar with a tag that is not the document's own: the tags of the simple types read the text as
-- such, any other makes it a string. A tag that starts like one of the document's own but spells no
-- text counts for nothing.
def ofTagged? (tag : Tag) (plain : Bool) (text : String) : Option Value :=
  if tag = coreTag "bool" then bool? text
  else if tag = coreTag "int" then int? text
  else if tag = coreTag "float" then float? text
  else if tag = coreTag "null" then null? text
  else if tag.head? = some '!'.toUInt8 ∧ plain then ofPlain? text
  else some (.string text)

-- The name of a tag of the document's own: what follows the exclamation mark, or the mark if it
-- stands alone.
def localName? (tag : Tag) : Option String :=
  match tag with
  | [] => none
  | first :: rest =>
      if first ≠ '!'.toUInt8 then none
      else String.fromUTF8? ⟨(if rest.isEmpty then tag else rest).toArray⟩

-- A tag's name as it is shown, with one exclamation mark in front of what follows.
def shownTag (name : String) : String :=
  match name.toList with
  | '!' :: c :: rest => "!" ++ String.ofList (c :: rest)
  | _ => "!" ++ name

-- Whether two keys are the same key. Only scalars can be.
def sameKey : Value → Value → Bool
  | .null, .null => true
  | .bool a, .bool b => a == b
  | .int a, .int b => a == b
  | .float a, .float b => a.sameNumber b
  | .notFinite, .notFinite => true
  | .string a, .string b => a == b
  | _, _ => false

-- The text of a key: strings, booleans and finite numbers have one.
def keyText? : Value → Option String
  | .string text => some text
  | .bool value => some (boolText value)
  | .int value => some (Number.int value).text
  | .float value => some (Number.float value).text
  | _ => none

mutual

-- The value as JSON, if every key in it has a text. What is not finite is null, and a tagged value
-- is an object with the tag as its only name.
def toJson? : Value → Option Json
  | .null => some .null
  | .bool value => some (.bool value)
  | .int value => some (.number (.int value))
  | .float value => some (.number (.float value))
  | .notFinite => some .null
  | .string text => some (.string text)
  | .sequence items => do some (.array (← toItems? items))
  | .mapping pairs => do some (.object (← toMembers? pairs))
  | .tagged tag content => do some (.object [(shownTag tag, ← toJson? content)])

def toItems? : List Value → Option (List Json)
  | [] => some []
  | item :: rest => do some ((← toJson? item) :: (← toItems? rest))

def toMembers? : List (Value × Value) → Option (List (String × Json))
  | [] => some []
  | (key, value) :: rest => do
      some ((← keyText? key, ← toJson? value) :: (← toMembers? rest))

end

end Value

end DocModule.Yaml
