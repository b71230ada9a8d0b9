import DocModule.Yaml.Token.Scalar
import DocModule.Yaml.Token.Tag

namespace DocModule.Yaml

-- A place where a mapping key may have started: the number of tokens before it, where it stands, and
-- whether nothing else is possible there.
structure KeyStart where
  position : Nat
  line : Nat
  column : Nat
  offset : Nat
  required : Bool

-- The reader of tokens. The tokens are latest first. The indents are those of the open block
-- collections, the innermost first. There is one possible key for the block level and one for each
-- open flow collection, the innermost first.
structure Scanner where
  input : Input
  tokens : List Token
  count : Nat
  indents : List Nat
  keys : List (Option KeyStart)
  keyAllowed : Bool

namespace Scanner

def start (input : Input) : Scanner :=
  { input, tokens := [], count := 0, indents := [], keys := [none], keyAllowed := true }

def inFlow (s : Scanner) : Bool :=
  match s.keys with
  | _ :: _ :: _ => true
  | _ => false

def push (s : Scanner) (token : Token) : Scanner :=
  { s with tokens := token :: s.tokens, count := s.count + 1 }

-- Puts a token before all those from the given position on.
def insert (s : Scanner) (position : Nat) (token : Token) : Scanner :=
  { s with tokens := s.tokens.insertIdx (s.count - position) token, count := s.count + 1 }

def dropKey? (s : Scanner) : Option Scanner :=
  match s.keys with
  | some key :: rest => if key.required then none else some { s with keys := none :: rest }
  | _ => some s

def noteKey? (s : Scanner) (g : Glyph) : Option Scanner :=
  if s.keyAllowed then do
    let required := !s.inFlow && s.indents.head? == some g.column
    let s ← s.dropKey?
    some { s with keys := some ⟨s.count, g.line, g.column, g.offset, required⟩ :: s.keys.drop 1 }
  else some s

-- A key stands on one line and takes at most this many bytes.
def keyLimit : Nat :=
  1024

-- Gives up the possible key of the innermost level if it ends too far from here. The keys of the
-- outer levels do not get nearer, so they are looked at when their level is the innermost again.
def dropStale? (s : Scanner) (g : Glyph) : Option Scanner :=
  match s.keys with
  | some key :: _ =>
      if key.line < g.line || key.offset + keyLimit < g.offset then s.dropKey? else some s
  | _ => some s

-- Opens a block collection at a column deeper than the innermost one, with its start put at the
-- given position.
def openBlock (s : Scanner) (column position : Nat) (token : Token) : Scanner :=
  if s.inFlow || s.indents.head?.any (column ≤ ·) then s
  else { s.insert position token with indents := column :: s.indents }

-- Closes the block collections that are indented deeper than a column, or all without one.
def closeBlocks (s : Scanner) (column : Option Nat) : Scanner :=
  if s.inFlow then s
  else
    let isDeeper (indent : Nat) : Bool := column.all (· < indent)
    let closed := (s.indents.takeWhile isDeeper).length
    { s with
      tokens := List.replicate closed .blockEnd ++ s.tokens,
      count := s.count + closed,
      indents := s.indents.dropWhile isDeeper }

-- Skips blanks, comments, empty lines and the byte order mark that may start a line. A tab may stand
-- where no key can start. Outside flow collections a key may start on each new line.
def gapFrom (flow : Bool) : Input → (keyAllowed inComment : Bool) → Bool × Input
  | [], keyAllowed, _ => (keyAllowed, [])
  | g :: rest, keyAllowed, inComment =>
      if g.isBreak then gapFrom flow rest (keyAllowed || !flow) false
      else if inComment then gapFrom flow rest keyAllowed true
      else if g.isOrderMark || g.char == ' ' || (g.char == '\t' && (flow || !keyAllowed)) then
        gapFrom flow rest keyAllowed false
      else if g.char == '#' then gapFrom flow rest keyAllowed true
      else (keyAllowed, g :: rest)

def skipGap (s : Scanner) : Scanner :=
  let (keyAllowed, input) := gapFrom s.inFlow s.input s.keyAllowed false
  { s with keyAllowed, input }

-- A directive or document mark: it ends all block collections.
def documentLine? (s : Scanner) (token : Token) (rest : Input) : Option Scanner := do
  let s ← (s.closeBlocks none).dropKey?
  some ({ s with keyAllowed := false, input := rest }.push token)

def flowStart? (s : Scanner) (g : Glyph) (token : Token) (rest : Input) : Option Scanner := do
  let s ← s.noteKey? g
  some ({ s with keys := none :: s.keys, keyAllowed := true, input := rest }.push token)

def flowEnd? (s : Scanner) (token : Token) (rest : Input) : Option Scanner := do
  let s ← s.dropKey?
  let keys := if s.inFlow then s.keys.drop 1 else s.keys
  some ({ s with keys, keyAllowed := false, input := rest }.push token)

def flowEntry? (s : Scanner) (rest : Input) : Option Scanner := do
  let s ← s.dropKey?
  some ({ s with keyAllowed := true, input := rest }.push .flowEntry)

-- The indicator of a sequence entry or of a key; outside flow collections it may open a block.
def indicator? (s : Scanner) (g : Glyph) (block token : Token) (rest : Input) : Option Scanner :=
  if !s.inFlow && !s.keyAllowed then none
  else do
    let s := s.openBlock g.column s.count block
    let s ← s.dropKey?
    some ({ s with input := rest }.push token)

def entry? (s : Scanner) (g : Glyph) (rest : Input) : Option Scanner := do
  let s ← s.indicator? g .sequenceStart .entry rest
  some { s with keyAllowed := true }

def key? (s : Scanner) (g : Glyph) (rest : Input) : Option Scanner := do
  let s ← s.indicator? g .mappingStart .key rest
  some { s with keyAllowed := !s.inFlow }

-- The indicator of a value. What stands before it becomes a key if it can be one.
def value? (s : Scanner) (g : Glyph) (rest : Input) : Option Scanner :=
  match s.keys with
  | some key :: outer =>
      let s := (s.insert key.position .key).openBlock key.column key.position .mappingStart
      some ({ s with keys := none :: outer, keyAllowed := false, input := rest }.push .value)
  | _ =>
      if !s.inFlow && !s.keyAllowed then none
      else
        let s := s.openBlock g.column s.count .mappingStart
        some ({ s with keyAllowed := !s.inFlow, input := rest }.push .value)

def keyed? (s : Scanner) (g : Glyph) (token : Token) (rest : Input) : Option Scanner := do
  let s ← s.noteKey? g
  some ({ s with keyAllowed := false, input := rest }.push token)

def quoted? (s : Scanner) (g : Glyph) (read : Option (List Char × Input)) : Option Scanner := do
  let (text, rest) ← read
  s.keyed? g (.scalar false (String.ofList text)) rest

def blockScalar? (s : Scanner) (folded : Bool) (rest : Input) : Option Scanner := do
  let s ← s.dropKey?
  let (text, rest) ← Scalar.block? folded s.indents.head? rest
  some ({ s with keyAllowed := true, input := rest }.push (.scalar false (String.ofList text)))

def plain? (s : Scanner) (g : Glyph) : Option Scanner := do
  let plain ← Scalar.plain? s.inFlow (s.indents.head?.elim 0 (· + 1)) s.input
  let s ← s.keyed? g (.scalar true (String.ofList plain.text)) plain.rest
  some { s with keyAllowed := plain.broken }

def startsPlain (flow : Bool) (c : Char) (rest : Input) : Bool :=
  if c == '-' then !rest.head?.any Glyph.isBlank
  else if c == '?' || c == ':' then !flow && !Input.atGap rest
  else !(c == ' ' || c == '\t' || isBreak c || ",[]\x7b\x7d#&*!|>'\"%@\x60".toList.contains c)

def token? (s : Scanner) (g : Glyph) (rest : Input) : Option Scanner :=
  let flow := s.inFlow
  let here := g :: rest
  if g.column == 0 && g.char == '%' then do
    let (token, rest) ← Directive.read? rest
    s.documentLine? token rest
  else if Input.atMark '-' here then s.documentLine? .documentStart (here.drop 3)
  else if Input.atMark '.' here then s.documentLine? .documentEnd (here.drop 3)
  else if g.char == '[' then s.flowStart? g .flowSequenceStart rest
  else if g.char == '\x7b' then s.flowStart? g .flowMappingStart rest
  else if g.char == ']' then s.flowEnd? .flowSequenceEnd rest
  else if g.char == '\x7d' then s.flowEnd? .flowMappingEnd rest
  else if g.char == ',' then s.flowEntry? rest
  else if g.char == '-' && Input.atGap rest then s.entry? g rest
  else if g.char == '?' && (flow || Input.atGap rest) then s.key? g rest
  else if g.char == ':' && (flow || Input.atGap rest) then s.value? g rest
  else if g.char == '*' then do
    let (name, rest) ← reference? rest
    s.keyed? g (.alias name) rest
  else if g.char == '&' then do
    let (name, rest) ← reference? rest
    s.keyed? g (.anchor name) rest
  else if g.char == '!' then do
    let (name, rest) ← Tag.read? flow rest
    s.keyed? g (.tag name) rest
  else if g.char == '|' && !flow then s.blockScalar? false rest
  else if g.char == '>' && !flow then s.blockScalar? true rest
  else if g.char == '\'' then s.quoted? g (Scalar.single? rest)
  else if g.char == '"' then s.quoted? g (Scalar.double? rest)
  else if startsPlain flow g.char rest then s.plain? g
  else none

-- Reads tokens to the end of the text. Each takes up at least one character, so one unit of fuel
-- for each character is enough.
def run? : (fuel : Nat) → Scanner → Option (List Token)
  | 0, _ => none
  | fuel + 1, s =>
      let s := s.skipGap
      match s.input with
      | [] => do
          let s ← (s.closeBlocks none).dropKey?
          some s.tokens.reverse
      | g :: rest => do
          let s ← s.dropStale? g
          let s ← (s.closeBlocks (some g.column)).token? g rest
          run? fuel s

end Scanner

def Token.scan? (text : String) : Option (List Token) := do
  let input ← glyphs? text
  Scanner.run? (input.length + 1) (.start input)

end DocModule.Yaml
