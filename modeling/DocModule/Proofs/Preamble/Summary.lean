import DocModule.Export.Lemmas
import DocModule.Preamble
import DocModule.Proofs.Run
import DocModule.Proofs.Text.Joined

namespace DocModule.Preamble

open Text

-- Why a block has no place in any document.
def rejection? : Block → Option Error
  | .exporting src =>
      match Export.classify src with
      | .rejected form => some (.rejectedExport form src)
      | .default _ | .named _ _ | .other _ => none
  | .frontmatter _ | .importing _ | .prose _ | .code _ _ | .markup _ | .comment _ => none

theorem rejection?_eq_some_iff {block : Block} {error : Error} :
    rejection? block = some error ↔
      ∃ src form, block = .exporting src ∧ Export.classify src = .rejected form ∧
        error = .rejectedExport form src := by
  cases block with
  | exporting src => cases h : Export.classify src <;> simp [rejection?, h, eq_comm]
  | frontmatter _ | importing _ | prose _ | code _ _ | markup _ | comment _ => simp [rejection?]

-- What a block declares, which may be the empty text.
def declaration? : Block → Option String
  | .frontmatter props => some (Frontmatter.docComment props)
  | .importing src => some src
  | .exporting src =>
      match Export.classify src with
      | .named _ _ | .other _ => some src
      | .default _ | .rejected _ => none
  | .prose _ | .code _ _ | .markup _ | .comment _ => none

def expression? : Block → Option String
  | .exporting src =>
      match Export.classify src with
      | .default expression => some expression
      | .rejected _ | .named _ _ | .other _ => none
  | .frontmatter _ | .importing _ | .prose _ | .code _ _ | .markup _ | .comment _ => none

def exportedName? : Block → Option String
  | .exporting src =>
      match Export.classify src with
      | .named name _ => some name
      | .default _ | .rejected _ | .other _ => none
  | .frontmatter _ | .importing _ | .prose _ | .code _ _ | .markup _ | .comment _ => none

-- The preamble of a document none of whose blocks is rejected, read off its blocks field by field.
def summary (blocks : List Block) : Preamble where
  declarations := nonempty (blocks.filterMap declaration?)
  layout := (blocks.filterMap expression?).getLast?
  exportNames := blocks.filterMap exportedName?

-- One preamble after another. The layout of the second one counts if it has one.
def append (first second : Preamble) : Preamble where
  declarations := first.declarations ++ second.declarations
  layout := second.layout.or first.layout
  exportNames := first.exportNames ++ second.exportNames

@[simp] theorem empty_append (preamble : Preamble) : empty.append preamble = preamble := by
  simp [append, empty]

@[simp] theorem append_empty (preamble : Preamble) : preamble.append empty = preamble := by
  simp [append, empty]

theorem append_assoc (first second third : Preamble) :
    (first.append second).append third = first.append (second.append third) := by
  simp [append, Option.or_assoc]

@[simp] theorem summary_nil : summary [] = empty :=
  rfl

theorem summary_append (blocks others : List Block) :
    summary (blocks ++ others) = (summary blocks).append (summary others) := by
  simp [summary, append, List.getLast?_append]

theorem summary_cons (block : Block) (blocks : List Block) :
    summary (block :: blocks) = (summary [block]).append (summary blocks) :=
  summary_append [block] blocks

theorem declare_eq_append (preamble : Preamble) (declaration : String) :
    preamble.declare declaration = preamble.append ⟨nonempty [declaration], none, []⟩ := by
  by_cases h : declaration = "" <;> simp [declare, append, nonempty, h]

theorem summary_singleton (block : Block) :
    summary [block] =
      ⟨nonempty (declaration? block).toList, expression? block, (exportedName? block).toList⟩ := by
  rcases hd : declaration? block with _ | declaration <;>
    rcases he : expression? block with _ | expression <;>
      rcases hn : exportedName? block with _ | name <;> simp [summary, hd, he, hn]

-- One block either fails the preamble or adds its own summary at the end, whatever came before.
theorem outcome_absorb (preamble : Preamble) (block : Block) :
    (preamble.absorb block).outcome =
      Error.before (rejection? block) (.ok (preamble.append (summary [block]))) := by
  rw [summary_singleton]
  cases block with
  | frontmatter props => exact congrArg Except.ok (declare_eq_append preamble _)
  | importing src => exact congrArg Except.ok (declare_eq_append preamble src)
  | exporting src =>
      obtain ⟨expression, h⟩ | ⟨form, h⟩ | ⟨name, h⟩ | h := Export.classify_cases src
      · rcases hl : preamble.layout with _ | previous <;>
          simp [absorb, setLayout, rejection?, declaration?, expression?, exportedName?, h, hl,
            append, Except.bind]
      · simp [absorb, rejection?, h]
      · simp [absorb, rejection?, declaration?, expression?, exportedName?, h, declare_eq_append,
          addName, append]
      · simp [absorb, rejection?, declaration?, expression?, exportedName?, h, declare_eq_append]
  | prose value => exact congrArg Except.ok (append_empty preamble).symm
  | code src language => exact congrArg Except.ok (append_empty preamble).symm
  | markup src => exact congrArg Except.ok (append_empty preamble).symm
  | comment src => exact congrArg Except.ok (append_empty preamble).symm

-- A run over blocks fails by the first one that is rejected, or else adds their summary. The
-- induction is over the blocks with an arbitrary preamble to start from.
theorem outcome_foldlM_absorb (preamble : Preamble) (blocks : List Block) :
    (blocks.foldlM absorb preamble).outcome =
      Error.before (blocks.findSome? rejection?) (.ok (preamble.append (summary blocks))) := by
  induction blocks generalizing preamble with
  | nil => simp
  | cons block blocks ih =>
      rw [List.foldlM_cons, Run.outcome_bind, outcome_absorb, Error.before_bind, List.findSome?_cons]
      cases h : rejection? block with
      | some error => rfl
      | none =>
          rw [summary_cons block blocks, ← append_assoc]
          exact ih (preamble.append (summary [block]))

theorem outcome_build (blocks : List Block) :
    (build blocks).outcome =
      Error.before (blocks.findSome? rejection?) (.ok (summary blocks)) := by
  rw [build, Run.outcome_bind, outcome_foldlM_absorb, Error.before_bind, empty_append]
  rfl

end DocModule.Preamble
