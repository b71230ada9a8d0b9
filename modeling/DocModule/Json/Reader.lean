import DocModule.Json.Number
import DocModule.Text.Quoted

namespace DocModule.Json

open Text

def isSpace (c : Char) : Bool :=
  c == ' ' || c == '\t' || c == '\n' || c == '\r'

def skipSpace (cs : List Char) : List Char :=
  cs.dropWhile isSpace

def depthLimit : Nat :=
  127

-- A member's name up to the colon after it.
def name? (cs : List Char) : Option (String × List Char) :=
  match skipSpace cs with
  | '"' :: rest => do
      let (name, rest) ← Quoted.read? rest
      match skipSpace rest with
      | ':' :: rest => some (name, rest)
      | _ => none
  | _ => none

mutual

-- A value at the front of a text, nested at most as deep as said, and the text after it. Every
-- step into a value takes one unit of fuel, and no step is possible without reading a character.
def value? : (fuel depth : Nat) → List Char → Option (Json × List Char)
  | 0, _, _ => none
  | fuel + 1, depth, cs =>
      match skipSpace cs with
      | 'n' :: 'u' :: 'l' :: 'l' :: rest => some (.null, rest)
      | 't' :: 'r' :: 'u' :: 'e' :: rest => some (.bool true, rest)
      | 'f' :: 'a' :: 'l' :: 's' :: 'e' :: rest => some (.bool false, rest)
      | '"' :: rest => do
          let (text, rest) ← Quoted.read? rest
          some (.string text, rest)
      | '[' :: rest =>
          match depth with
          | 0 => none
          | depth + 1 =>
              match skipSpace rest with
              | ']' :: rest => some (.array [], rest)
              | _ => do
                  let (items, rest) ← items? fuel depth rest
                  some (.array items, rest)
      | '{' :: rest =>
          match depth with
          | 0 => none
          | depth + 1 =>
              match skipSpace rest with
              | '}' :: rest => some (.object [], rest)
              | _ => do
                  let (members, rest) ← members? fuel depth rest
                  some (.object members, rest)
      | cs => do
          let (n, rest) ← number? cs
          some (.number n, rest)

-- One or more values separated by commas, up to the closing bracket.
def items? : (fuel depth : Nat) → List Char → Option (List Json × List Char)
  | 0, _, _ => none
  | fuel + 1, depth, cs => do
      let (item, rest) ← value? fuel depth cs
      match skipSpace rest with
      | ',' :: rest => do
          let (items, rest) ← items? fuel depth rest
          some (item :: items, rest)
      | ']' :: rest => some ([item], rest)
      | _ => none

-- One or more members separated by commas, up to the closing brace.
def members? : (fuel depth : Nat) → List Char → Option (List (String × Json) × List Char)
  | 0, _, _ => none
  | fuel + 1, depth, cs => do
      let (name, rest) ← name? cs
      let (value, rest) ← value? fuel depth rest
      match skipSpace rest with
      | ',' :: rest => do
          let (members, rest) ← members? fuel depth rest
          some ((name, value) :: members, rest)
      | '}' :: rest => some ([(name, value)], rest)
      | _ => none

end

-- Enough fuel for any value in a text: two units for each character.
def fuelFor (cs : List Char) : Nat :=
  2 * cs.length + 2

-- The one value that a text holds; nothing but space may follow it.
def parse? (text : String) : Option Json :=
  let cs := text.toList
  match value? (fuelFor cs) depthLimit cs with
  | some (value, rest) => if (skipSpace rest).isEmpty then some value else none
  | none => none

end DocModule.Json
