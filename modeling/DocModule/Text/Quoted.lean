namespace DocModule.Text.Quoted

-- How one character is written between quotation marks: the quotation mark, the backslash and the
-- control characters below U+0020 are escaped, everything else stands for itself.
def escape (c : Char) : List Char :=
  if c = '"' then ['\\', '"']
  else if c = '\\' then ['\\', '\\']
  else if c = '\x08' then ['\\', 'b']
  else if c = '\t' then ['\\', 't']
  else if c = '\n' then ['\\', 'n']
  else if c = '\x0c' then ['\\', 'f']
  else if c = '\r' then ['\\', 'r']
  else if c.toNat < 32 then
    ['\\', 'u', '0', '0', Nat.digitChar (c.toNat / 16), Nat.digitChar (c.toNat % 16)]
  else [c]

def encode (cs : List Char) : List Char :=
  cs.flatMap escape

def literal (s : String) : String :=
  String.ofList ('"' :: (encode s.toList ++ ['"']))

-- What one step through a literal finds: a character, or a code unit named by four hexadecimal
-- digits, which may be one half of a surrogate pair.
inductive Piece where
  | char (c : Char)
  | codeUnit (n : Nat)
  deriving DecidableEq, Repr

def hexValue? (c : Char) : Option Nat :=
  if '0' ≤ c ∧ c ≤ '9' then some (c.toNat - '0'.toNat)
  else if 'a' ≤ c ∧ c ≤ 'f' then some (c.toNat - 'a'.toNat + 10)
  else if 'A' ≤ c ∧ c ≤ 'F' then some (c.toNat - 'A'.toNat + 10)
  else none

def codeUnit? (a b c d : Char) : Option Nat := do
  return (((← hexValue? a) * 16 + (← hexValue? b)) * 16 + (← hexValue? c)) * 16 + (← hexValue? d)

def short? (c : Char) : Option Char :=
  if c = '"' ∨ c = '\\' ∨ c = '/' then some c
  else if c = 'b' then some '\x08'
  else if c = 't' then some '\t'
  else if c = 'n' then some '\n'
  else if c = 'f' then some '\x0c'
  else if c = 'r' then some '\r'
  else none

-- The pieces up to the closing quotation mark, and the text after it. The opening mark has been
-- read. A bare control character is refused.
def pieces? : List Char → Option (List Piece × List Char)
  | [] => none
  | '"' :: rest => some ([], rest)
  | '\\' :: 'u' :: a :: b :: c :: d :: rest => do
      let n ← codeUnit? a b c d
      let (pieces, after) ← pieces? rest
      some (.codeUnit n :: pieces, after)
  | '\\' :: c :: rest => do
      let c ← short? c
      let (pieces, after) ← pieces? rest
      some (.char c :: pieces, after)
  | c :: rest =>
      if c.toNat < 32 ∨ c = '\\' then none
      else do
        let (pieces, after) ← pieces? rest
        some (.char c :: pieces, after)

def isLeading (n : Nat) : Bool :=
  0xD800 ≤ n && n < 0xDC00

def isTrailing (n : Nat) : Bool :=
  0xDC00 ≤ n && n < 0xE000

-- The characters that the pieces spell. A leading surrogate takes the trailing one right after it;
-- any other surrogate is refused.
def chars? : List Piece → Option (List Char)
  | [] => some []
  | .char c :: rest => do
      some (c :: (← chars? rest))
  | .codeUnit n :: .codeUnit m :: rest =>
      if isLeading n then
        if isTrailing m then do
          some (Char.ofNat (0x10000 + (n - 0xD800) * 0x400 + (m - 0xDC00)) :: (← chars? rest))
        else none
      else if isTrailing n then none
      else do some (Char.ofNat n :: (← chars? (.codeUnit m :: rest)))
  | .codeUnit n :: rest =>
      if isLeading n || isTrailing n then none
      else do some (Char.ofNat n :: (← chars? rest))

-- The text that a literal stands for, and what follows the literal. The opening quotation mark has
-- been read.
def read? (cs : List Char) : Option (String × List Char) := do
  let (pieces, after) ← pieces? cs
  some (String.ofList (← chars? pieces), after)

end DocModule.Text.Quoted
