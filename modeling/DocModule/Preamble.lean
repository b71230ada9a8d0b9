import DocModule.Log
import DocModule.Text.Joined

namespace DocModule

-- What stands above the component of a module: the declarations in order, the expression of the
-- layout, and the names that declarations export, in order and with repetitions.
structure Preamble where
  declarations : List String
  layout : Option String
  exportNames : List String
  deriving DecidableEq, Repr

namespace Preamble

def empty : Preamble :=
  ⟨[], none, []⟩

def text (preamble : Preamble) : String :=
  Text.paragraphs preamble.declarations

-- An empty declaration is not recorded.
def declare (preamble : Preamble) (declaration : String) : Preamble :=
  if declaration = "" then preamble
  else { preamble with declarations := preamble.declarations ++ [declaration] }

-- A later layout takes the place of an earlier one.
def setLayout (preamble : Preamble) (expression : String) : Run Preamble := do
  if let some previous := preamble.layout then
    Run.tell (.layoutReplaced previous expression)
  return { preamble with layout := some expression }

def addName (preamble : Preamble) (name : String) : Preamble :=
  { preamble with exportNames := preamble.exportNames ++ [name] }

-- The preamble with one more block. Blocks of the body leave it as it is.
def absorb (preamble : Preamble) (block : Block) : Run Preamble :=
  match block with
  | .frontmatter props => pure (preamble.declare (Frontmatter.docComment props))
  | .importing src => pure (preamble.declare src)
  | .exporting src =>
      match Export.classify src with
      | .default expression => preamble.setLayout expression
      | .rejected form => Run.fail (.rejectedExport form src)
      | .named name statement => pure ((preamble.addName name).declare statement)
      | .other statement => pure (preamble.declare statement)
  | .prose _ | .code _ _ | .markup _ | .comment _ => do
      Run.tell (.skipped block.kind)
      return preamble

-- The preamble of a document. The first unsupported re-export fails it.
def build (blocks : List Block) : Run Preamble := do
  let preamble ← blocks.foldlM absorb empty
  Run.tell (.preambleBuilt preamble.declarations.length preamble.exportNames.length
    preamble.layout.isSome)
  return preamble

end Preamble

end DocModule
