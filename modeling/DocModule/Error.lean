import DocModule.Export
import DocModule.Frontmatter

namespace DocModule

-- What an author is told to write in place of a re-export.
def ReExport.guidance : ReExport → String
  | .fromModule =>
      "For example, instead of:\n\nexport \x7b default \x7d from './Layout'\n\nuse:\n\n" ++
        "import Layout from './Layout'\nexport default Layout"
  | .localAlias =>
      "For example, instead of:\n\nexport \x7b Layout as default \x7d\n\nuse:\n\nexport default Layout"

inductive Shape where
  | text
  | map
  deriving DecidableEq, Repr

def Shape.describe : Shape → String
  | .text => "a string"
  | .map => "a map"

-- Why an entry is no block: it has no tag, a field of another type, or a field is missing.
inductive Fault where
  | untagged
  | wrongType (found : Json) (expected : Shape)
  | missing (field : String)

def Fault.message : Fault → String
  | .untagged => "block is missing a string `type` tag"
  | .wrongType found expected =>
      "invalid type: " ++ found.describe ++ ", expected " ++ expected.describe
  | .missing field => "missing field `" ++ field ++ "`"

inductive Error where
  | rejectedExport (form : ReExport) (statement : String)
  | unknownKind (tag : String)
  | notBlocks
  | invalidBlock (fault : Fault)
  | frontmatter (error : Frontmatter.Error)

-- Why a text is not an array of blocks is not kept either. What follows the colon there is the
-- library's own wording, and nothing depends on it.
def Error.message : Error → String
  | .rejectedExport form _ =>
      "TDX doesn't support using \"default\" as a named export, " ++
        "use \"export default\" statement instead.\n\n" ++ form.guidance
  | .unknownKind tag => "unknown block type `" ++ tag ++ "` in document body"
  | .notBlocks => "Invalid block sequence: the text is not a JSON array"
  | .invalidBlock fault => "Invalid block sequence: " ++ fault.message
  | .frontmatter error => "Frontmatter error: " ++ error.message

end DocModule
