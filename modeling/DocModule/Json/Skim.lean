import DocModule.Json.Reader

namespace DocModule.Json.Skim

open Text

def digits1? (cs : List Char) : Option (List Char) :=
  if (cs.takeWhile Char.isDigit).isEmpty then none else some (cs.dropWhile Char.isDigit)

def exponent? : List Char → Option (List Char)
  | 'e' :: '+' :: rest | 'e' :: '-' :: rest | 'E' :: '+' :: rest | 'E' :: '-' :: rest => digits1? rest
  | 'e' :: rest | 'E' :: rest => digits1? rest
  | cs => some cs

-- The text after a number of any size, without its sign.
def number? (cs : List Char) : Option (List Char) := do
  let rest ← match cs with
    | '0' :: rest => if rest.head?.any Char.isDigit then none else some rest
    | _ => digits1? cs
  match rest with
  | '.' :: rest => exponent? (← digits1? rest)
  | _ => exponent? rest

-- A value that is only looked at for its form. What is kept of it is the boolean, if it is one;
-- numbers of any size, any surrogates and any nesting pass.
structure Glance where
  bool? : Option Bool
  rest : List Char

mutual

def value? : (fuel : Nat) → List Char → Option Glance
  | 0, _ => none
  | fuel + 1, cs =>
      match skipSpace cs with
      | 'n' :: 'u' :: 'l' :: 'l' :: rest => some ⟨none, rest⟩
      | 't' :: 'r' :: 'u' :: 'e' :: rest => some ⟨some true, rest⟩
      | 'f' :: 'a' :: 'l' :: 's' :: 'e' :: rest => some ⟨some false, rest⟩
      | '"' :: rest => do
          let (_, rest) ← Quoted.pieces? rest
          some ⟨none, rest⟩
      | '[' :: rest =>
          match skipSpace rest with
          | ']' :: rest => some ⟨none, rest⟩
          | _ => do some ⟨none, ← items? fuel rest⟩
      | '{' :: rest =>
          match skipSpace rest with
          | '}' :: rest => some ⟨none, rest⟩
          | _ => do some ⟨none, ← members? fuel rest⟩
      | '-' :: rest => do some ⟨none, ← number? rest⟩
      | cs => do some ⟨none, ← number? cs⟩

def items? : (fuel : Nat) → List Char → Option (List Char)
  | 0, _ => none
  | fuel + 1, cs => do
      let glance ← value? fuel cs
      match skipSpace glance.rest with
      | ',' :: rest => items? fuel rest
      | ']' :: rest => some rest
      | _ => none

def members? : (fuel : Nat) → List Char → Option (List Char)
  | 0, _ => none
  | fuel + 1, cs =>
      match skipSpace cs with
      | '"' :: rest => do
          let (_, rest) ← Quoted.pieces? rest
          match skipSpace rest with
          | ':' :: rest => do
              let glance ← value? fuel rest
              match skipSpace glance.rest with
              | ',' :: rest => members? fuel rest
              | '}' :: rest => some rest
              | _ => none
          | _ => none
      | _ => none

end

-- The members of an object after its opening brace, each with its name in full and a glance at its
-- value.
def outline? : (fuel : Nat) → List Char → Option (List (String × Option Bool) × List Char)
  | 0, _ => none
  | fuel + 1, cs => do
      let (name, rest) ← name? cs
      let glance ← value? fuel rest
      match skipSpace glance.rest with
      | ',' :: rest => do
          let (members, rest) ← outline? fuel rest
          some ((name, glance.bool?) :: members, rest)
      | '}' :: rest => some ([(name, glance.bool?)], rest)
      | _ => none

-- A glance at each item of an array after its opening bracket.
def series? : (fuel : Nat) → List Char → Option (List (Option Bool) × List Char)
  | 0, _ => none
  | fuel + 1, cs => do
      let glance ← value? fuel cs
      match skipSpace glance.rest with
      | ',' :: rest => do
          let (items, rest) ← series? fuel rest
          some (glance.bool? :: items, rest)
      | ']' :: rest => some ([glance.bool?], rest)
      | _ => none

end DocModule.Json.Skim
