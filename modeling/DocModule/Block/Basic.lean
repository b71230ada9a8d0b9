import DocModule.Props

namespace DocModule

inductive Kind where
  | frontmatter
  | importing
  | exporting
  | prose
  | code
  | markup
  | comment
  deriving DecidableEq, Repr

namespace Kind

def tag : Kind → String
  | .frontmatter => "yaml"
  | .importing => "import"
  | .exporting => "export"
  | .prose => "md"
  | .code => "code"
  | .markup => "jsx"
  | .comment => "comment"

-- The kind that a tag names. Markup has a second tag.
def ofTag? (tag : String) : Option Kind :=
  if tag = "yaml" then some .frontmatter
  else if tag = "import" then some .importing
  else if tag = "export" then some .exporting
  else if tag = "md" then some .prose
  else if tag = "code" then some .code
  else if tag = "jsx" ∨ tag = "html" then some .markup
  else if tag = "comment" then some .comment
  else none

-- The kinds that show up in the body of a module; the others are declarations.
def isRenderable : Kind → Bool
  | .prose | .code | .markup | .comment => true
  | .frontmatter | .importing | .exporting => false

end Kind

-- One unit of a document: its properties, an import or export statement, prose with its markup made
-- ready, code with the language it may be in, markup, or a comment without its marks.
inductive Block where
  | frontmatter (props : Props)
  | importing (src : String)
  | exporting (src : String)
  | prose (value : String)
  | code (src : String) (language : Option String)
  | markup (src : String)
  | comment (src : String)
  deriving DecidableEq

def Block.kind : Block → Kind
  | .frontmatter _ => .frontmatter
  | .importing _ => .importing
  | .exporting _ => .exporting
  | .prose _ => .prose
  | .code _ _ => .code
  | .markup _ => .markup
  | .comment _ => .comment

end DocModule
