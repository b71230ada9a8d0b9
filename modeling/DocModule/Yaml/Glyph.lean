namespace DocModule.Yaml

-- A character with the place where it stands, counted from zero: its line, the number of characters
-- before it on the line, and the number of bytes they take in UTF-8.
structure Glyph where
  char : Char
  line : Nat
  column : Nat
  offset : Nat
  deriving Repr

abbrev Input := List Glyph

-- The characters a text may hold: no control characters but tab, line feed, carriage return and next
-- line, and neither of the two noncharacters at the end of the basic plane.
def isAllowed (c : Char) : Bool :=
  let n := c.toNat
  n == 0x9 || n == 0xA || n == 0xD || (0x20 ≤ n && n ≤ 0x7E) || n == 0x85 ||
    (0xA0 ≤ n && n ≤ 0xFFFD) || 0x10000 ≤ n

def lineSeparator : Char := '\u2028'

def paragraphSeparator : Char := '\u2029'

-- Every way to end a line is one line feed, but for the two separators, which stay what they are.
def unifyBreaks : List Char → List Char
  | [] => []
  | '\r' :: '\n' :: rest => '\n' :: unifyBreaks rest
  | '\r' :: rest => '\n' :: unifyBreaks rest
  | '\u0085' :: rest => '\n' :: unifyBreaks rest
  | c :: rest => c :: unifyBreaks rest

def isBreak (c : Char) : Bool :=
  c == '\n' || c == lineSeparator || c == paragraphSeparator

def place : (line column offset : Nat) → List Char → Input
  | _, _, _, [] => []
  | line, column, offset, c :: rest =>
      ⟨c, line, column, offset⟩ ::
        if isBreak c then place (line + 1) 0 0 rest
        else place line (column + 1) (offset + c.utf8Size) rest

def glyphs? (text : String) : Option Input :=
  if text.toList.all isAllowed then some (place 0 0 0 (unifyBreaks text.toList)) else none

namespace Glyph

def isBreak (g : Glyph) : Bool :=
  Yaml.isBreak g.char

-- A byte order mark at the start of a line.
def isOrderMark (g : Glyph) : Bool :=
  g.char == '\uFEFF' && g.column == 0

def isBlank (g : Glyph) : Bool :=
  g.char == ' ' || g.char == '\t'

def isSpaceOrBreak (g : Glyph) : Bool :=
  g.isBlank || g.isBreak

end Glyph

namespace Input

-- Whether a word ends here: before a blank, a line break or the end of the text.
def atGap : Input → Bool
  | [] => true
  | g :: _ => g.isSpaceOrBreak

def startsWith (c : Char) : Input → Bool
  | [] => false
  | g :: _ => g.char == c

-- Three of one character at the start of a line and a gap after them.
def atMark (c : Char) : Input → Bool
  | x :: y :: z :: rest =>
      x.column == 0 && x.char == c && y.char == c && z.char == c && atGap rest
  | _ => false

-- A line that starts or ends a document.
def atDocumentMark (input : Input) : Bool :=
  atMark '-' input || atMark '.' input

def skipBlanks (input : Input) : Input :=
  input.dropWhile Glyph.isBlank

-- What is left after blanks, a comment and the end of the line; nothing else may stand on the line.
def endLine? (input : Input) : Option Input :=
  let rest := skipBlanks input
  let rest := if startsWith '#' rest then rest.dropWhile (!·.isBreak) else rest
  match rest with
  | [] => some []
  | g :: rest => if g.isBreak then some rest else none

end Input

end DocModule.Yaml
