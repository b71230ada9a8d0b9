import DocModule.Block.Basic
import DocModule.Error
import DocModule.Json.Reader

namespace DocModule

-- An entry of a block sequence: a block, or the tag of one of no known kind.
inductive Entry where
  | known (block : Block)
  | unknown (tag : String)
  deriving DecidableEq

namespace Block

def textField (name : String) (entry : Json) : Except Fault String :=
  match entry.field? name with
  | some (.string text) => .ok text
  | some found => .error (.wrongType found .text)
  | none => .error (.missing name)

def optionalTextField (name : String) (entry : Json) : Except Fault (Option String) :=
  match entry.field? name with
  | none | some .null => .ok none
  | some (.string text) => .ok (some text)
  | some found => .error (.wrongType found .text)

-- The properties of a frontmatter entry. They are given as an object, or else as a YAML text.
def propsField (entry : Json) (read : String → Option Yaml.Value := Yaml.Value.parse?) :
    Except Error Props :=
  match entry.field? "props" with
  | some (.object members) => .ok (Frontmatter.propsOfMembers members)
  | some found => .error (.invalidBlock (.wrongType found .map))
  | none =>
      match entry.field? "src" with
      | some (.string src) => (Frontmatter.parse src read).mapError .frontmatter
      | _ => .ok ∅

def fromFields (build : Except Fault Block) : Except Error Block :=
  build.mapError .invalidBlock

-- The block of a known kind with the fields of an entry. Fields are looked at in the order of their
-- names, and those of other kinds do not matter.
def ofEntry (kind : Kind) (entry : Json)
    (read : String → Option Yaml.Value := Yaml.Value.parse?) : Except Error Block :=
  match kind with
  | .frontmatter => (propsField entry read).map .frontmatter
  | .importing => fromFields ((textField "src" entry).map .importing)
  | .exporting => fromFields ((textField "src" entry).map .exporting)
  | .prose => fromFields ((textField "value" entry).map .prose)
  | .code => fromFields do
      let language ← optionalTextField "language" entry
      let src ← textField "src" entry
      return .code src language
  | .markup => fromFields ((textField "src" entry).map .markup)
  | .comment => fromFields ((textField "src" entry).map .comment)

end Block

namespace Entry

def ofJson (entry : Json) (read : String → Option Yaml.Value := Yaml.Value.parse?) :
    Except Error Entry :=
  match (entry.field? "type").bind Json.string? with
  | none => .error (.invalidBlock .untagged)
  | some tag =>
      match Kind.ofTag? tag with
      | none => .ok (.unknown tag)
      | some kind => (Block.ofEntry kind entry read).map .known

-- The entries of a JSON array. The first one that is malformed fails the whole text, while a tag of
-- no known kind is kept.
def ofText (text : String) : Except Error (List Entry) :=
  match Json.parse? text with
  | some (.array items) => items.mapM (ofJson ·)
  | _ => .error .notBlocks

def block : Entry → Except Error Block
  | .known block => .ok block
  | .unknown tag => .error (.unknownKind tag)

end Entry

-- The blocks of a JSON array, none of which may be of an unknown kind.
def Block.ofText (text : String) : Except Error (List Block) := do
  let entries ← Entry.ofText text
  entries.mapM Entry.block

end DocModule
