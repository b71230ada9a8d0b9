import DocModule.Block.Basic
import DocModule.Json.Writer

namespace DocModule.Block

def propsJson (props : Props) : Json :=
  .object (props.entries.map fun entry => (entry.1, .string entry.2))

-- The fields of a block next to its tag.
def fields : Block → List (String × Json)
  | .frontmatter props => [("props", propsJson props)]
  | .importing src => [("src", .string src)]
  | .exporting src => [("src", .string src)]
  | .prose value => [("value", .string value)]
  | .code src language => [("src", .string src), ("language", language.elim .null .string)]
  | .markup src => [("src", .string src)]
  | .comment src => [("src", .string src)]

def toJson (block : Block) : Json :=
  .object (("type", .string block.kind.tag) :: block.fields)

def toText (blocks : List Block) : String :=
  (Json.array (blocks.map toJson)).write

end DocModule.Block
