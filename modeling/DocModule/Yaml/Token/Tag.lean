import DocModule.Text.Quoted
import DocModule.Yaml.Glyph
import DocModule.Yaml.Token

namespace DocModule.Yaml

def isNameChar (c : Char) : Bool :=
  c.isAlphanum || c == '_' || c == '-'

def takeName (input : Input) : String × Input :=
  (String.ofList ((input.takeWhile (isNameChar ·.char)).map (·.char)),
    input.dropWhile (isNameChar ·.char))

namespace Tag

-- The characters of a tag that stand for themselves; a few more of them between angle brackets and
-- in directives.
def isUriChar (wide : Bool) (c : Char) : Bool :=
  isNameChar c || ";/?:@&=+$.!~*'()".toList.contains c || (wide && ",[]".toList.contains c)

-- How many octets follow a first octet of a character in UTF-8.
def following? (octet : Nat) : Option Nat :=
  if octet < 0x80 then some 0
  else if octet / 0x20 = 6 then some 1
  else if octet / 0x10 = 14 then some 2
  else if octet / 8 = 30 then some 3
  else none

-- The octets of the rest of a tag. While octets of one character are owed, each must be given by a
-- percent escape and continue the character.
def uriFrom? (wide : Bool) : Input → (owed : Nat) → List UInt8 → Option (Tag × Input)
  | [], owed, octets => if owed > 0 then none else some (octets.reverse, [])
  | g :: rest, owed, octets =>
      if g.char == '%' then
        match rest with
        | high :: low :: after =>
            match Text.Quoted.hexValue? high.char, Text.Quoted.hexValue? low.char with
            | some high, some low =>
                let octet := high * 16 + low
                if owed > 0 then
                  if octet / 0x40 = 2 then uriFrom? wide after (owed - 1) (octet.toUInt8 :: octets)
                  else none
                else
                  match following? octet with
                  | some owed => uriFrom? wide after owed (octet.toUInt8 :: octets)
                  | none => none
            | _, _ => none
        | _ => none
      else if owed > 0 then none
      else if isUriChar wide g.char then uriFrom? wide rest 0 (g.char.toUInt8 :: octets)
      else some (octets.reverse, g :: rest)

-- The part of a tag before any null octet.
def uri? (wide : Bool) (input : Input) : Option (Tag × Input) := do
  let (octets, rest) ← uriFrom? wide input 0 []
  some (octets.takeWhile (· ≠ 0), rest)

def nonemptyUri? (wide : Bool) (input : Input) : Option (Tag × Input) := do
  let (octets, rest) ← uriFrom? wide input 0 []
  if octets.isEmpty then none else some (octets.takeWhile (· ≠ 0), rest)

def bang : Tag :=
  Tag.ofString "!"

-- A tag after its exclamation mark: between angle brackets as it stands, with a named handle, with
-- the primary handle, or the mark alone.
def name? (input : Input) : Option (TagName × Input) :=
  if Input.startsWith '<' input then do
    let (suffix, rest) ← nonemptyUri? true (input.drop 1)
    if Input.startsWith '>' rest then some (⟨none, suffix⟩, rest.drop 1) else none
  else
    let (word, rest) := takeName input
    if Input.startsWith '!' rest then do
      let (suffix, rest) ← nonemptyUri? false (rest.drop 1)
      some (⟨some ("!" ++ word ++ "!"), suffix⟩, rest)
    else do
      let (suffix, rest) ← uri? false input
      some (if suffix.isEmpty then ⟨none, bang⟩ else ⟨some "!", suffix⟩, rest)

-- A tag and the gap after it; inside a flow collection a comma will do.
def read? (flow : Bool) (input : Input) : Option (TagName × Input) := do
  let (name, rest) ← name? input
  if (flow && Input.startsWith ',' rest) || Input.atGap rest then some (name, rest) else none

end Tag

namespace Directive

-- At most nine digits.
def number? (input : Input) : Option (Nat × Input) :=
  let digits := input.takeWhile (·.char.isDigit)
  if digits.isEmpty || digits.length > 9 then none
  else some (digits.foldl (fun n g => n * 10 + (g.char.toNat - '0'.toNat)) 0,
    input.dropWhile (·.char.isDigit))

def version? (input : Input) : Option (Token × Input) := do
  let (major, rest) ← number? (Input.skipBlanks input)
  if Input.startsWith '.' rest then do
    let (minor, rest) ← number? (rest.drop 1)
    some (.version major minor, rest)
  else none

-- A handle and the start of the tags that it stands for.
def tagHandle? (input : Input) : Option (Token × Input) := do
  let input := Input.skipBlanks input
  if !Input.startsWith '!' input then none
  else
    let (word, rest) := takeName (input.drop 1)
    let (handle, rest) ←
      if Input.startsWith '!' rest then some ("!" ++ word ++ "!", rest.drop 1)
      else if word.isEmpty then some ("!", rest)
      else none
    match rest with
    | g :: _ =>
        if !g.isBlank then none
        else do
          let (start, rest) ← Tag.nonemptyUri? true (Input.skipBlanks rest)
          if Input.atGap rest then some (.tagHandle handle start, rest) else none
    | [] => none

-- A directive after its percent sign, to the end of its line.
def read? (input : Input) : Option (Token × Input) := do
  let (name, rest) := takeName input
  if !Input.atGap rest then none
  else
    let (token, rest) ←
      if name = "YAML" then version? rest
      else if name = "TAG" then tagHandle? rest
      else none
    some (token, ← Input.endLine? rest)

end Directive

-- The name of an anchor or alias after its indicator, which a gap or one of a few indicators ends.
def reference? (input : Input) : Option (String × Input) :=
  let (name, rest) := takeName input
  if name.isEmpty then none
  else if Input.atGap rest || "?:,]\x7d%@\x60".toList.any fun c => Input.startsWith c rest then
    some (name, rest)
  else none

end DocModule.Yaml
