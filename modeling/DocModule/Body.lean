import DocModule.Log
import DocModule.Text.Joined
import DocModule.Text.Quoted

namespace DocModule.Body

open Text

-- The element around code, which names the class of its language if it has one.
def codeStart : Option String → String
  | some language =>
      "<Md name=\"code\" props=\x7b\x7b className: " ++ Quoted.literal ("language-" ++ language) ++
        " \x7d\x7d>"
  | none => "<Md name=\"code\">"

def codeFragment (src : String) (language : Option String) : String :=
  "<Md name=\"pre\">" ++ codeStart language ++ src ++ "</Md></Md>"

-- What a block shows in the body of a module, if it is of a kind that shows.
def fragment? : Block → Option String
  | .prose value => some value
  | .code src language => some (codeFragment src language)
  | .markup src => some src
  | .comment src => some ("\x7b/*" ++ src ++ "*/\x7d")
  | .frontmatter _ | .importing _ | .exporting _ => none

-- The fragments of a document that are not empty, in order.
def fragments (blocks : List Block) : List String :=
  nonempty (blocks.filterMap fragment?)

def text (blocks : List Block) : String :=
  paragraphs (fragments blocks)

-- The body of a document, with what there is to tell about it.
def build (blocks : List Block) : Run String := do
  Run.tell (.bodyBuilt (fragments blocks).length blocks.length)
  return text blocks

end DocModule.Body
