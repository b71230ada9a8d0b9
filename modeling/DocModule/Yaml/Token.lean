namespace DocModule.Yaml

-- A tag in the octets it stands for, since a tag may name octets by percent escapes.
abbrev Tag := List UInt8

def Tag.ofString (text : String) : Tag :=
  text.toUTF8.toList

-- A tag before its handle is looked up. A tag without a handle stands for itself.
structure TagName where
  handle : Option String
  suffix : Tag
  deriving DecidableEq, Repr

-- The units of a text. A scalar says whether it was written without quotes and indicators.
inductive Token where
  | version (major minor : Nat)
  | tagHandle (handle : String) (start : Tag)
  | documentStart
  | documentEnd
  | sequenceStart
  | mappingStart
  | blockEnd
  | flowSequenceStart
  | flowSequenceEnd
  | flowMappingStart
  | flowMappingEnd
  | entry
  | flowEntry
  | key
  | value
  | alias (name : String)
  | anchor (name : String)
  | tag (name : TagName)
  | scalar (plain : Bool) (text : String)
  deriving DecidableEq, Repr

end DocModule.Yaml
