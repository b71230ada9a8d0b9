import DocModule.Proofs.Text.Spelling

namespace DocModule.Json

open Text

-- The space that may surround every part of a text.
def Spaces (cs : List Char) : Prop :=
  ∀ c ∈ cs, c ∈ [' ', '\t', '\n', '\r']

instance (cs : List Char) : Decidable (Spaces cs) :=
  List.decidableBAll _ cs

def Padded (part cs : List Char) : Prop :=
  ∃ before after, Spaces before ∧ Spaces after ∧ cs = before ++ part ++ after

def IsDigits (cs : List Char) : Prop :=
  cs ≠ [] ∧ ∀ c ∈ cs, c.isDigit

instance (cs : List Char) : Decidable (IsDigits cs) :=
  have : Decidable (∀ c ∈ cs, c.isDigit) := List.decidableBAll _ cs
  inferInstanceAs (Decidable (_ ∧ _))

-- The digits before the point, where no zero is needless.
def IsWhole (cs : List Char) : Prop :=
  IsDigits cs ∧ (cs.head? = some '0' → cs = ['0'])

def IsFraction (cs : List Char) : Prop :=
  cs = [] ∨ ∃ digits, IsDigits digits ∧ cs = '.' :: digits

def IsExponent (cs : List Char) : Prop :=
  cs = [] ∨ ∃ mark ∈ ['e', 'E'], ∃ sign ∈ [[], ['+'], ['-']], ∃ digits,
    IsDigits digits ∧ cs = mark :: (sign ++ digits)

def IsNumber (cs : List Char) : Prop :=
  ∃ sign ∈ [[], ['-']], ∃ whole fraction exponent,
    IsWhole whole ∧ IsFraction fraction ∧ IsExponent exponent ∧
      cs = sign ++ (whole ++ (fraction ++ exponent))

-- A member of an object as it stands in a text: its name, if what is written there stands for a text
-- at all, and how its value is written.
structure Member where
  name : Option String
  value : List Char

-- A member's name in marks, with the space around it.
def IsLabel (name : Option String) (cs : List Char) : Prop :=
  ∃ pieces body, Quoted.IsString pieces body ∧ Quoted.Denotes pieces name ∧
    Padded ('"' :: (body ++ ['"'])) cs

theorem padded_self (cs : List Char) : Padded cs cs :=
  ⟨[], [], by decide, by decide, by simp⟩

theorem isLabel_of_isString {pieces : List Quoted.Piece} {body : List Char} {name : Option String}
    (h : Quoted.IsString pieces body) (hname : (Quoted.chars? pieces).map String.ofList = name) :
    IsLabel name ('"' :: (body ++ ['"'])) :=
  ⟨pieces, body, h, hname ▸ Quoted.denotes_chars? h, padded_self _⟩

-- The phrases of the grammar. What is between the brackets of an array or the braces of an object is
-- a phrase with the values or the members in it.
inductive Phrase where
  | value
  | items (values : List (List Char))
  | members (members : List Member)

-- The grammar of JSON. A value has no bounds on its size or its depth, names may occur more than
-- once, and a string may hold any code units.
inductive Derives : Phrase → List Char → Prop
  | null : Derives .value "null".toList
  | bool (value : Bool) : Derives .value (boolText value).toList
  | number {cs : List Char} : IsNumber cs → Derives .value cs
  | string {pieces : List Quoted.Piece} {body : List Char} :
      Quoted.IsString pieces body → Derives .value ('"' :: (body ++ ['"']))
  | array {values : List (List Char)} {cs : List Char} :
      Derives (.items values) cs → Derives .value ('[' :: (cs ++ [']']))
  | object {members : List Member} {cs : List Char} :
      Derives (.members members) cs → Derives .value ('{' :: (cs ++ ['}']))
  | noItems {gap : List Char} : Spaces gap → Derives (.items []) gap
  | lastItem {value cs : List Char} :
      Derives .value value → Padded value cs → Derives (.items [value]) cs
  | item {value cs next rest : List Char} {values : List (List Char)} :
      Derives .value value → Padded value cs → Derives (.items (next :: values)) rest →
      Derives (.items (value :: next :: values)) (cs ++ ',' :: rest)
  | noMembers {gap : List Char} : Spaces gap → Derives (.members []) gap
  | lastMember {name : Option String} {label value cs : List Char} :
      IsLabel name label → Derives .value value → Padded value cs →
      Derives (.members [⟨name, value⟩]) (label ++ ':' :: cs)
  | member {name : Option String} {label value cs rest : List Char} {next : Member}
      {members : List Member} :
      IsLabel name label → Derives .value value → Padded value cs →
      Derives (.members (next :: members)) rest →
      Derives (.members (⟨name, value⟩ :: next :: members)) (label ++ ':' :: (cs ++ ',' :: rest))

-- A text that holds one object, with the members it has.
def IsObject (members : List Member) (text : String) : Prop :=
  ∃ cs, Derives (.members members) cs ∧ Padded ('{' :: (cs ++ ['}'])) text.toList

end DocModule.Json
