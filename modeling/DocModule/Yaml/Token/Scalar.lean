import DocModule.Text.Quoted
import DocModule.Yaml.Glyph

namespace DocModule.Yaml.Scalar

-- The blanks and line breaks between two words of a scalar: the blanks before any break, the first
-- break, and the breaks after it. Blanks after a break are not kept.
structure Gap where
  blanks : List Char
  broken : Bool
  first : List Char
  more : List Char

namespace Gap

def none : Gap :=
  ⟨[], false, [], []⟩

-- A line break that was escaped: the line goes on without a break.
def escapedBreak : Gap :=
  ⟨[], true, [], []⟩

def isNone (gap : Gap) : Bool :=
  gap.blanks.isEmpty && !gap.broken

def addBlank (gap : Gap) (c : Char) : Gap :=
  if gap.broken then gap else { gap with blanks := gap.blanks ++ [c] }

def addBreak (gap : Gap) (c : Char) : Gap :=
  if gap.broken then { gap with more := gap.more ++ [c] } else ⟨[], true, [c], []⟩

-- What a gap adds to the text: a single line feed becomes a space, the first of several line
-- breaks is dropped, and blanks within a line are kept.
def text (gap : Gap) : List Char :=
  if !gap.broken then gap.blanks
  else if gap.first == ['\n'] then (if gap.more.isEmpty then [' '] else gap.more)
  else gap.first ++ gap.more

def after (gap : Gap) (before : List Char) : List Char :=
  gap.text.reverse ++ before

end Gap

structure Plain where
  text : List Char
  -- Whether the scalar was followed by a line break.
  broken : Bool
  rest : Input

def endsPlain (flow : Bool) (c : Char) (rest : Input) : Bool :=
  (c == ':' && rest.atGap) || (flow && ",[]\x7b\x7d".toList.contains c)

-- A colon inside a flow collection right before an indicator of it.
def isColonClash (flow : Bool) (c : Char) (rest : Input) : Bool :=
  flow && c == ':' && ",?[]\x7b\x7d".toList.any rest.startsWith

-- A scalar without quotes from the first character on. It ends at an indicator, at a comment, at a
-- document mark and, outside flow collections, on a line that is not indented enough.
def plainFrom? (flow : Bool) (indent : Nat) : Input → Gap → List Char → Option Plain
  | [], gap, text => some ⟨text.reverse, gap.broken, []⟩
  | g :: rest, gap, text =>
      if g.isBreak then plainFrom? flow indent rest (gap.addBreak g.char) text
      else if g.isBlank then
        if gap.broken && g.char == '\t' && g.column < indent then none
        else plainFrom? flow indent rest (gap.addBlank g.char) text
      else if !gap.isNone && (g.char == '#' || Input.atDocumentMark (g :: rest) ||
          (!flow && g.column < indent)) then
        some ⟨text.reverse, gap.broken, g :: rest⟩
      else if isColonClash flow g.char rest then none
      else if endsPlain flow g.char rest then some ⟨text.reverse, gap.broken, g :: rest⟩
      else plainFrom? flow indent rest .none (g.char :: gap.after text)

def plain? (flow : Bool) (indent : Nat) (input : Input) : Option Plain :=
  plainFrom? flow indent input .none []

-- A scalar in single quotes after the first quote. Two quotes stand for one.
def singleFrom? : Input → Gap → List Char → Option (List Char × Input)
  | [], _, _ => none
  | g :: rest, gap, text =>
      if g.isBreak then singleFrom? rest (gap.addBreak g.char) text
      else if g.isBlank then singleFrom? rest (gap.addBlank g.char) text
      else if Input.atDocumentMark (g :: rest) then none
      else if g.char == '\'' then
        match rest with
        | next :: after =>
            if next.char == '\'' then singleFrom? after .none ('\'' :: gap.after text)
            else some ((gap.after text).reverse, next :: after)
        | [] => some ((gap.after text).reverse, [])
      else singleFrom? rest .none (g.char :: gap.after text)

def escape? (c : Char) : Option Char :=
  match c with
  | '0' => some '\x00'
  | 'a' => some '\x07'
  | 'b' => some '\x08'
  | 't' | '\t' => some '\t'
  | 'n' => some '\n'
  | 'v' => some '\x0b'
  | 'f' => some '\x0c'
  | 'r' => some '\r'
  | 'e' => some '\x1b'
  | ' ' => some ' '
  | '"' => some '"'
  | '/' => some '/'
  | '\\' => some '\\'
  | 'N' => some '\u0085'
  | '_' => some '\u00a0'
  | 'L' => some lineSeparator
  | 'P' => some paragraphSeparator
  | _ => none

def codeLength (c : Char) : Nat :=
  if c == 'x' then 2 else if c == 'u' then 4 else if c == 'U' then 8 else 0

def isScalarValue (n : Nat) : Bool :=
  n < 0xD800 || (0xE000 ≤ n && n ≤ 0x10FFFF)

-- A scalar in double quotes after the first quote. While digits of an escape are owed, code is the
-- number they have spelled so far.
def doubleFrom? : Input → (owed code : Nat) → Gap → List Char → Option (List Char × Input)
  | [], _, _, _, _ => none
  | g :: rest, owed + 1, code, _, text =>
      match Text.Quoted.hexValue? g.char with
      | none => none
      | some digit =>
          let code := code * 16 + digit
          if owed > 0 then doubleFrom? rest owed code .none text
          else if isScalarValue code then doubleFrom? rest 0 0 .none (Char.ofNat code :: text)
          else none
  | g :: rest, 0, _, gap, text =>
      if g.isBreak then doubleFrom? rest 0 0 (gap.addBreak g.char) text
      else if g.isBlank then doubleFrom? rest 0 0 (gap.addBlank g.char) text
      else if Input.atDocumentMark (g :: rest) then none
      else if g.char == '"' then some ((gap.after text).reverse, rest)
      else if g.char == '\\' then
        match rest with
        | [] => none
        | next :: after =>
            if next.isBreak then doubleFrom? after 0 0 .escapedBreak (gap.after text)
            else if codeLength next.char > 0 then
              doubleFrom? after (codeLength next.char) 0 .none (gap.after text)
            else
              match escape? next.char with
              | none => none
              | some c => doubleFrom? after 0 0 .none (c :: gap.after text)
      else doubleFrom? rest 0 0 .none (g.char :: gap.after text)

def single? (input : Input) : Option (List Char × Input) :=
  singleFrom? input .none []

def double? (input : Input) : Option (List Char × Input) :=
  doubleFrom? input 0 0 .none []

inductive Chomp where
  | strip
  | clip
  | keep

def chomp? (c : Char) : Option Chomp :=
  if c == '-' then some .strip else if c == '+' then some .keep else none

def width? (c : Char) : Option Nat :=
  if c.isDigit then some (c.toNat - '0'.toNat) else none

-- The line of a block scalar after its indicator: how to chomp, and how much deeper than its parent
-- it is indented, zero if that is left to its first line. The two may stand in either order.
def header? (input : Input) : Option (Chomp × Nat × Input) := do
  let (chomp, width, rest) ← match input with
    | a :: b :: rest =>
        match chomp? a.char, width? a.char, chomp? b.char, width? b.char with
        | some chomp, _, _, some width => some (chomp, some width, rest)
        | _, some width, some chomp, _ => some (chomp, some width, rest)
        | some chomp, _, _, _ => some (chomp, none, b :: rest)
        | _, some width, _, _ => some (Chomp.clip, some width, b :: rest)
        | _, _, _, _ => some (Chomp.clip, none, input)
    | [a] =>
        match chomp? a.char, width? a.char with
        | some chomp, _ => some (chomp, none, [])
        | _, some width => some (Chomp.clip, some width, [])
        | _, _ => some (Chomp.clip, none, input)
    | [] => some (Chomp.clip, none, [])
  let rest ← Input.endLine? rest
  if width == some 0 then none else some (chomp, width.getD 0, rest)

-- The widest indentation of the empty lines in front and of the first line with content. Spaces at
-- the end of the text count as such a line. A tab may not take part in it.
def widest? : Input → Nat → Option Nat
  | [], width => some width
  | g :: rest, width =>
      if g.char == ' ' then widest? rest (if rest.isEmpty then max width (g.column + 1) else width)
      else if g.char == '\t' then none
      else if g.isBreak then widest? rest (max width g.column)
      else some (max width g.column)

-- The text of a block scalar so far, latest character first; the break that ended its last line with
-- content, the breaks of the empty lines after that, and whether that line began with a blank.
structure Body where
  text : List Char
  lineEnd : List Char
  empty : List Char
  blankStart : Bool

namespace Body

def none : Body :=
  ⟨[], [], [], false⟩

-- The body with the breaks before a new line added, and the first character of that line. In a
-- folded scalar a line feed between two lines that do not start with a blank is a space, or
-- nothing if empty lines follow it.
def startLine (body : Body) (folded : Bool) (first : Glyph) : Body :=
  let lineEnd :=
    if folded && body.lineEnd == ['\n'] && !body.blankStart && !first.isBlank then
      (if body.empty.isEmpty then [' '] else [])
    else body.lineEnd
  { text := first.char :: (body.empty.reverse ++ lineEnd.reverse ++ body.text),
    lineEnd := [], empty := [], blankStart := first.isBlank }

def chomped (body : Body) (chomp : Chomp) : List Char :=
  body.text.reverse ++
    match chomp with
    | .strip => []
    | .clip => body.lineEnd
    | .keep => body.lineEnd ++ body.empty

end Body

-- The lines of a block scalar, indented by a known width, up to the first one that is not.
def lines? (folded : Bool) (indent : Nat) : Input → (inLine : Bool) → Body → Option (Body × Input)
  | [], _, body => some (body, [])
  | g :: rest, true, body =>
      if g.isBreak then lines? folded indent rest false { body with lineEnd := [g.char] }
      else lines? folded indent rest true { body with text := g.char :: body.text }
  | g :: rest, false, body =>
      if g.column < indent && g.char == ' ' then lines? folded indent rest false body
      else if g.column < indent && g.char == '\t' then none
      else if g.isBreak then
        lines? folded indent rest false { body with empty := body.empty ++ [g.char] }
      else if g.column == indent then lines? folded indent rest true (body.startLine folded g)
      else some (body, g :: rest)

-- A block scalar after its indicator, in a collection indented by the given width if there is one.
def block? (folded : Bool) (parent : Option Nat) (input : Input) : Option (List Char × Input) := do
  let (chomp, width, rest) ← header? input
  let indent ←
    if width > 0 then some (parent.getD 0 + width)
    else do some (max (max (← widest? rest 0) (parent.elim 0 (· + 1))) 1)
  let (body, rest) ← lines? folded indent rest false .none
  some (body.chomped chomp, rest)

end DocModule.Yaml.Scalar
