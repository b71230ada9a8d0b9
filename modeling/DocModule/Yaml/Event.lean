import DocModule.Yaml.Token

namespace DocModule.Yaml

structure Properties (ρ : Type) where
  anchor : Option ρ
  tag : Option Tag

-- A step of a walk through a document in the order of its text. References are by names or, once
-- these are resolved, by numbers.
inductive Event (ρ : Type) where
  | alias (target : ρ)
  | scalar (properties : Properties ρ) (plain : Bool) (text : String)
  | sequenceStart (properties : Properties ρ)
  | sequenceEnd
  | mappingStart (properties : Properties ρ)
  | mappingEnd

namespace Event

-- The tokens still to be read, and the events so far, latest first.
structure Walk where
  tokens : List Token
  events : List (Event String)

def bare : Properties String :=
  ⟨none, none⟩

def Walk.push (w : Walk) (event : Event String) : Walk :=
  { w with events := event :: w.events }

-- A node that is not written at all.
def Walk.pushEmpty (w : Walk) : Walk :=
  w.push (.scalar bare true "")

-- The tags that each handle stands for the start of.
abbrev Handles := List (String × Tag)

def defaultHandles : Handles :=
  [("!", Tag.ofString "!"), ("!!", Tag.ofString "tag:yaml.org,2002:")]

def resolveTag? (handles : Handles) (name : TagName) : Option Tag :=
  match name.handle with
  | none => some name.suffix
  | some handle => (handles.find? (·.1 = handle)).map (·.2 ++ name.suffix)

-- At most one anchor and one tag, in either order.
def properties? (handles : Handles) : List Token → Option (Properties String × List Token)
  | .anchor anchor :: .tag name :: rest | .tag name :: .anchor anchor :: rest => do
      some (⟨some anchor, some (← resolveTag? handles name)⟩, rest)
  | .anchor anchor :: rest => some (⟨some anchor, none⟩, rest)
  | .tag name :: rest => do
      some (⟨none, some (← resolveTag? handles name)⟩, rest)
  | tokens => some (bare, tokens)

-- Whether the next token ends the place of a node in a block mapping.
def endsInMapping : List Token → Bool
  | .key :: _ | .value :: _ | .blockEnd :: _ => true
  | _ => false

def endsInSequence : List Token → Bool
  | .entry :: _ | .blockEnd :: _ => true
  | _ => false

-- A sequence that is a value of a mapping need not be indented deeper than the mapping.
def endsInFlatSequence : List Token → Bool
  | .entry :: _ => true
  | tokens => endsInMapping tokens

def endsInFlowSequence : List Token → Bool
  | .flowEntry :: _ | .flowSequenceEnd :: _ => true
  | _ => false

def endsInFlowMapping : List Token → Bool
  | .flowEntry :: _ | .flowMappingEnd :: _ => true
  | _ => false

def startsValue : List Token → Bool
  | .value :: _ => true
  | _ => false

-- Skips the comma in front of an entry of a flow collection, unless it is the first.
def comma? (first : Bool) (w : Walk) : Option Walk :=
  if first then some w
  else
    match w.tokens with
    | .flowEntry :: rest => some { w with tokens := rest }
    | _ => none

-- A node that has an anchor or a tag need not have content.
def omitted? (properties : Properties String) (w : Walk) (tokens : List Token) : Option Walk :=
  if properties.anchor.isSome || properties.tag.isSome then
    some ({ w with tokens }.push (.scalar properties true ""))
  else none

mutual

-- One node. Block collections are possible in block context, and a sequence that is not indented
-- where said. Every call takes a unit of fuel, and between two calls on one level a token is read.
def node? (handles : Handles) : (fuel : Nat) → (block flat : Bool) → Walk → Option Walk
  | 0, _, _, _ => none
  | fuel + 1, block, flat, w =>
      match w.tokens with
      | .alias name :: rest => some ({ w with tokens := rest }.push (.alias name))
      | tokens => do
          let (properties, tokens) ← properties? handles tokens
          let start (event : Event String) (rest : List Token) : Walk :=
            { w with tokens := rest }.push event
          match tokens with
          -- A scalar keeps its tag also where that is the exclamation mark alone.
          | .scalar plain text :: rest => some (start (.scalar properties plain text) rest)
          | .flowSequenceStart :: rest =>
              flowSequence? handles fuel true (start (.sequenceStart properties) rest)
          | .flowMappingStart :: rest =>
              flowMapping? handles fuel true (start (.mappingStart properties) rest)
          | .sequenceStart :: rest =>
              if block then sequence? handles fuel (start (.sequenceStart properties) rest)
              else omitted? properties w tokens
          | .mappingStart :: rest =>
              if block then mapping? handles fuel (start (.mappingStart properties) rest)
              else omitted? properties w tokens
          | .entry :: _ =>
              if flat then flatSequence? handles fuel (start (.sequenceStart properties) tokens)
              else omitted? properties w tokens
          | _ => omitted? properties w tokens

def sequence? (handles : Handles) : (fuel : Nat) → Walk → Option Walk
  | 0, _ => none
  | fuel + 1, w =>
      match w.tokens with
      | .entry :: rest => do
          let w := { w with tokens := rest }
          let w ← if endsInSequence rest then some w.pushEmpty else node? handles fuel true false w
          sequence? handles fuel w
      | .blockEnd :: rest => some ({ w with tokens := rest }.push .sequenceEnd)
      | _ => none

-- The entries of a sequence that is not indented; anything that is no entry ends it.
def flatSequence? (handles : Handles) : (fuel : Nat) → Walk → Option Walk
  | 0, _ => none
  | fuel + 1, w =>
      match w.tokens with
      | .entry :: rest => do
          let w := { w with tokens := rest }
          let w ← if endsInFlatSequence rest then some w.pushEmpty else node? handles fuel true false w
          flatSequence? handles fuel w
      | _ => some (w.push .sequenceEnd)

def mapping? (handles : Handles) : (fuel : Nat) → Walk → Option Walk
  | 0, _ => none
  | fuel + 1, w =>
      match w.tokens with
      | .key :: rest => do
          let w := { w with tokens := rest }
          let w ← if endsInMapping rest then some w.pushEmpty else node? handles fuel true true w
          let w ← if startsValue w.tokens then
              let w := { w with tokens := w.tokens.drop 1 }
              if endsInMapping w.tokens then some w.pushEmpty else node? handles fuel true true w
            else some w.pushEmpty
          mapping? handles fuel w
      | .blockEnd :: rest => some ({ w with tokens := rest }.push .mappingEnd)
      | _ => none

-- A value after its key in a flow collection, where a missing one is empty.
def flowValue? (handles : Handles) : (fuel : Nat) → (ends : List Token → Bool) → Walk → Option Walk
  | 0, _, _ => none
  | fuel + 1, ends, w =>
      if startsValue w.tokens then
        let w := { w with tokens := w.tokens.drop 1 }
        if ends w.tokens then some w.pushEmpty else node? handles fuel false false w
      else some w.pushEmpty

def flowKey? (handles : Handles) : (fuel : Nat) → (ends : List Token → Bool) → Walk → Option Walk
  | 0, _, _ => none
  | fuel + 1, ends, w =>
      if startsValue w.tokens || ends w.tokens then some w.pushEmpty
      else node? handles fuel false false w

-- The entries of a flow sequence up to its end. An entry with a key is a mapping of one pair.
def flowSequence? (handles : Handles) : (fuel : Nat) → (first : Bool) → Walk → Option Walk
  | 0, _, _ => none
  | fuel + 1, first, w =>
      match w.tokens with
      | .flowSequenceEnd :: rest => some ({ w with tokens := rest }.push .sequenceEnd)
      | _ => do
          let w ← comma? first w
          match w.tokens with
          | .flowSequenceEnd :: rest => some ({ w with tokens := rest }.push .sequenceEnd)
          | .key :: rest => do
              let w := { w with tokens := rest }.push (.mappingStart bare)
              let w ← flowKey? handles fuel endsInFlowSequence w
              let w ← flowValue? handles fuel endsInFlowSequence w
              flowSequence? handles fuel false (w.push .mappingEnd)
          | _ => do
              let w ← node? handles fuel false false w
              flowSequence? handles fuel false w

-- The pairs of a flow mapping up to its end. An entry without an indicator is a key on its own.
def flowMapping? (handles : Handles) : (fuel : Nat) → (first : Bool) → Walk → Option Walk
  | 0, _, _ => none
  | fuel + 1, first, w =>
      match w.tokens with
      | .flowMappingEnd :: rest => some ({ w with tokens := rest }.push .mappingEnd)
      | _ => do
          let w ← comma? first w
          match w.tokens with
          | .flowMappingEnd :: rest => some ({ w with tokens := rest }.push .mappingEnd)
          | .key :: rest => do
              let w ← flowKey? handles fuel endsInFlowMapping { w with tokens := rest }
              let w ← flowValue? handles fuel endsInFlowMapping w
              flowMapping? handles fuel false w
          | _ => do
              let w ← node? handles fuel false false w
              flowMapping? handles fuel false w.pushEmpty

end

structure Header where
  version : Option (Nat × Nat)
  handles : Handles

-- Reads the directives: at most one version, which must be 1.1 or 1.2, and each handle once.
def header? : List Token → Header → Option (Header × List Token)
  | .version major minor :: rest, header =>
      if header.version.isNone && major == 1 && (minor == 1 || minor == 2) then
        header? rest { header with version := some (major, minor) }
      else none
  | .tagHandle handle start :: rest, header =>
      if header.handles.any (·.1 = handle) then none
      else header? rest { header with handles := header.handles ++ [(handle, start)] }
  | tokens, header => some (header, tokens)

def isDirective : Token → Bool
  | .version _ _ | .tagHandle _ _ => true
  | _ => false

-- The content of a document. After an explicit start it may be missing.
def content? (handles : Handles) (mayMiss : Bool) (tokens : List Token) : Option Walk :=
  let w : Walk := ⟨tokens, []⟩
  let missing := match tokens with
    | [] => true
    | token :: _ => isDirective token || token == .documentStart || token == .documentEnd
  if mayMiss && missing then some w.pushEmpty
  else node? handles (4 * tokens.length + 4) true false w

-- The events of the one document that the tokens hold, none if they hold no document.
def ofTokens? (tokens : List Token) : Option (List (Event String)) := do
  if tokens.isEmpty then some []
  else
    let (header, rest) ← header? tokens ⟨none, []⟩
    let handles := header.handles ++ defaultHandles
    let w ← match rest with
      | .documentStart :: rest => content? handles true rest
      | _ => if tokens.head?.any isDirective then none else content? handles false rest
    if (w.tokens.dropWhile (· == .documentEnd)).isEmpty then some w.events.reverse else none

end Event

end DocModule.Yaml
