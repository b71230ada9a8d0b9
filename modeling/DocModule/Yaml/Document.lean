import DocModule.Yaml.Event
import DocModule.Yaml.Token.Scan
import DocModule.Yaml.Value

namespace DocModule.Yaml

namespace Event

-- The number of an anchor is how many names had been given before. A name given again takes a new
-- number, which the next new name may take as well.
abbrev Names := List (String × Nat)

def give (names : Names) (name : String) : Nat × Names :=
  (names.length, (name, names.length) :: names.filter (·.1 ≠ name))

def linkProperties (names : Names) (properties : Properties String) : Properties Nat × Names :=
  match properties.anchor with
  | none => (⟨none, properties.tag⟩, names)
  | some name =>
      let (number, names) := give names name
      (⟨some number, properties.tag⟩, names)

-- Numbers for names. A reference takes the number that its name has at that point.
def link? : List (Event String) → Names → Option (List (Event Nat))
  | [], _ => some []
  | .alias name :: rest, names => do
      let (_, number) ← names.find? (·.1 = name)
      some (.alias number :: (← link? rest names))
  | .scalar properties plain text :: rest, names => do
      let (properties, names) := linkProperties names properties
      some (.scalar properties plain text :: (← link? rest names))
  | .sequenceStart properties :: rest, names => do
      let (properties, names) := linkProperties names properties
      some (.sequenceStart properties :: (← link? rest names))
  | .mappingStart properties :: rest, names => do
      let (properties, names) := linkProperties names properties
      some (.mappingStart properties :: (← link? rest names))
  | .sequenceEnd :: rest, names => do some (.sequenceEnd :: (← link? rest names))
  | .mappingEnd :: rest, names => do some (.mappingEnd :: (← link? rest names))

def anchor? : Event Nat → Option Nat
  | .scalar properties _ _ | .sequenceStart properties | .mappingStart properties => properties.anchor
  | _ => none

-- The events from the last node on that has the given number.
def target? (number : Nat) : List (Event Nat) → Option (List (Event Nat))
  | [] => none
  | event :: rest =>
      (target? number rest).or (if event.anchor? = some number then some (event :: rest) else none)

end Event

namespace Value

open Event

-- Reading a value counts how many references have been followed.
abbrev Reading := StateT Nat Option

abbrev Reader := List (Event Nat) → Reading (Value × List (Event Nat))

def depthLimit : Nat :=
  128

-- A node that may be a reference: the node it refers to is read in its place. At most a hundred
-- references for each event of the document are followed.
def follow (document : List (Event Nat)) (read : Reader) : Reader
  | .alias number :: rest => do
      let followed ← get
      if followed ≥ document.length * 100 then failure
      else
        set (followed + 1)
        let target ← (target? number document : Option (List (Event Nat)))
        let (value, _) ← read target
        return (value, rest)
  | events => read events

-- The values up to the end of a sequence; the bound is the number of events left.
def readItems (read : Reader) : (bound : Nat) → List (Event Nat) →
    Reading (List Value × List (Event Nat))
  | _, .sequenceEnd :: rest => return ([], rest)
  | 0, _ => failure
  | bound + 1, events => do
      let (item, events) ← read events
      let (items, events) ← readItems read bound events
      return (item :: items, events)

def readPairs (read : Reader) : (bound : Nat) → List (Event Nat) →
    Reading (List (Value × Value) × List (Event Nat))
  | _, .mappingEnd :: rest => return ([], rest)
  | 0, _ => failure
  | bound + 1, events => do
      let (key, events) ← read events
      let (value, events) ← read events
      let (pairs, events) ← readPairs read bound events
      if pairs.any (sameKey key ·.1) then failure
      else return ((key, value) :: pairs, events)

-- A value with the document's own tag, if it has one.
def wrap (tag : Option Tag) (value : Value) : Value :=
  match tag.bind localName? with
  | some name => .tagged name value
  | none => value

-- A scalar by its text and its tag. Under a tag of the document's own it is what it would be
-- without a tag.
def ofScalar? (tag : Option Tag) (plain : Bool) (text : String) : Option Value :=
  match tag with
  | some tag =>
      if (localName? tag).isNone then ofTagged? tag plain text
      else if plain then ofPlain? text
      else some (.string text)
  | none => if plain then ofPlain? text else some (.string text)

-- The value of the node at the front, nested at most as deep as said.
def readNode (document : List (Event Nat)) : (depth : Nat) → Reader
  | _, .scalar properties plain text :: rest => do
      let value ← (ofScalar? properties.tag plain text : Option Value)
      return (wrap properties.tag value, rest)
  | depth + 1, .sequenceStart properties :: rest => do
      let (items, rest) ← readItems (follow document (readNode document depth)) rest.length rest
      return (wrap properties.tag (.sequence items), rest)
  | depth + 1, .mappingStart properties :: rest => do
      let (pairs, rest) ← readPairs (follow document (readNode document depth)) rest.length rest
      return (wrap properties.tag (.mapping pairs), rest)
  | _, _ => failure

-- The value that a text holds in its one document; a text without a document is null.
def parse? (text : String) : Option Value := do
  let tokens ← Token.scan? text
  let events ← Event.ofTokens? tokens
  let document ← link? events []
  if document.isEmpty then some .null
  else
    let ((value, _), _) ← (follow document (readNode document depthLimit) document).run 0
    some value

end Value

end DocModule.Yaml
