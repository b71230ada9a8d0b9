import DocModule.Block.Wire
import DocModule.Body
import DocModule.Component
import DocModule.Options
import DocModule.Preamble

namespace DocModule.Document

def assemble (preamble : Preamble) (blocks : List Block) (options : Options) : Run String := do
  let body ← Body.build blocks
  return Component.render {
    preamble := preamble.text, body, layout := preamble.layout,
    exportNames := preamble.exportNames, skipExport := options.skipExport }

def toModule (blocks : List Block) (options : Options) : Run String := do
  let preamble ← Preamble.build blocks
  assemble preamble blocks options

def knownBlocks (entries : List Entry) : List Block :=
  entries.filterMap fun entry => match entry with
    | .known block => some block
    | .unknown _ => none

def unknownTags (entries : List Entry) : List String :=
  entries.filterMap fun entry => match entry with
    | .known _ => none
    | .unknown tag => some tag

-- The module text of a document given by its entries. A re-export that is not supported is reported
-- before an entry of an unknown kind, wherever they stand.
def toModuleOfEntries (entries : List Entry) (options : Options) : Run String := do
  let blocks := knownBlocks entries
  let tags := unknownTags entries
  tags.forM fun tag => Run.tell (.skippedUnknown tag)
  let preamble ← Preamble.build blocks
  match tags.head? with
  | some tag => Run.fail (.unknownKind tag)
  | none => assemble preamble blocks options

-- The module text of a document given as a JSON array of blocks.
def toModuleOfText (text : String) (options : Options) : Run String := do
  let entries ← Run.ofExcept (Entry.ofText text)
  toModuleOfEntries entries options

end DocModule.Document
