import DocModule.Proofs.Document.Concatenation
import DocModule.Proofs.Export.Expression
import DocModule.Proofs.Export.Guidance
import Mathlib.Data.List.Forall2

namespace DocModule

open Text

namespace Export

-- A name as a declaration introduces it. Its first character is an ASCII one.
def IsName (name : List Char) : Prop :=
  ∃ first others, name = first :: others ∧ (first.isAlpha ∨ first = '_' ∨ first = '$') ∧
    ∀ c ∈ others, isWord c ∨ c = '$'

-- A statement that declares a name and holds it.
def Introduces (name statement : String) : Prop :=
  classify statement = .named name statement ∧ IsName name.toList ∧
    name.toList <:+: statement.toList

theorem isName_of_isLongestName {name rest : List Char} (h : IsLongestName name rest) :
    IsName name := by
  obtain ⟨⟨first, others, rfl, hfirst, hothers⟩, -⟩ := h
  refine ⟨first, others, rfl, ?_, fun c hc => ?_⟩
  · simpa [isNameStart, or_assoc] using hfirst
  · simpa [isNamePart] using hothers c hc

theorem introduces_of_named {src name statement : String} (h : classify src = .named name statement) :
    Introduces name src := by
  obtain ⟨⟨gap, head, rest, -, -, hname, htext⟩, rfl⟩ := (classify_named_iff src name statement).mp h
  have hinfix : name.toList <:+: trim statement.toList := ⟨_, rest, htext.symm⟩
  exact ⟨h, isName_of_isLongestName hname, hinfix.trans (trim_isInfix statement.toList)⟩

theorem ne_empty_of_introduces {name statement : String} (h : Introduces name statement) :
    statement ≠ "" := by
  rintro rfl
  obtain ⟨-, ⟨first, others, hname, -⟩, hinfix⟩ := h
  rw [hname] at hinfix
  exact absurd (List.infix_nil.mp hinfix) (List.cons_ne_nil _ _)

theorem isWord_of_isAlpha {c : Char} (h : c.isAlpha) : isWord c := by
  have hascii : c.toNat < 128 := by
    rcases Bool.or_eq_true_iff.mp h with hupper | hlower
    · have hlast : c.val ≤ 'Z'.val := (of_decide_eq_true hupper).2
      exact Nat.lt_of_le_of_lt hlast (by decide)
    · have hlast : c.val ≤ 'z'.val := of_decide_eq_true (Bool.and_eq_true_iff.mp hlower).2
      exact Nat.lt_of_le_of_lt hlast (by decide)
  simp [isWord, hascii, isAsciiWord, Char.isAlphanum, h]

-- What may stand around or between names is in none of them.
theorem not_mem_of_isName {name : List Char} (h : IsName name) {c : Char}
    (hc : isBlank c ∨ c ∈ [',', '\x7b', '\x7d']) : c ∉ name := by
  have hword : isWord c = false := by
    rcases hc with hblank | hmark
    · exact not_isWord_of_isBlank hblank
    · simp only [List.mem_cons, List.not_mem_nil, or_false] at hmark
      rcases hmark with rfl | rfl | rfl <;> decide
  have hdollar : c ≠ '$' := by
    rintro rfl
    revert hc
    decide
  obtain ⟨first, others, rfl, hfirst, hothers⟩ := h
  rw [List.mem_cons, not_or]
  constructor
  · rintro rfl
    rcases hfirst with halpha | rfl | hfirst
    · rw [isWord_of_isAlpha halpha] at hword
      cases hword
    · exact absurd hword (by decide)
    · exact hdollar hfirst
  · intro hmem
    rcases hothers c hmem with hother | hother
    · rw [hother] at hword
      cases hword
    · exact hdollar hother

end Export

namespace Preamble

open Export

-- What holds of the preamble of a document. Each name is matched, in order, with the statement of
-- the export that introduces it, and each of these statements is a declaration of its own.
structure Sound (blocks : List Block) (preamble : Preamble) : Prop where
  declared : ∀ declaration ∈ preamble.declarations, declaration ≠ ""
  named : ∃ statements, statements.map .exporting = blocks.filter (exportedName? · |>.isSome) ∧
    statements.Sublist preamble.declarations ∧
    List.Forall₂ Introduces preamble.exportNames statements
  trimmed : ∀ expression ∈ preamble.layout, IsTrimmed expression.toList

theorem sound_empty : Sound [] empty where
  declared := by simp [empty]
  named := ⟨[], rfl, List.Sublist.refl [], List.Forall₂.nil⟩
  trimmed := by simp [empty]

theorem Sound.append {blocks others : List Block} {first second : Preamble} (hfirst : Sound blocks first)
    (hsecond : Sound others second) : Sound (blocks ++ others) (first.append second) where
  declared declaration hmem := by
    rcases List.mem_append.mp hmem with hmem | hmem
    · exact hfirst.declared declaration hmem
    · exact hsecond.declared declaration hmem
  named := by
    obtain ⟨statements, hblocks, hsublist, hnames⟩ := hfirst.named
    obtain ⟨statements', hblocks', hsublist', hnames'⟩ := hsecond.named
    refine ⟨statements ++ statements', ?_, hsublist.append hsublist', List.rel_append hnames hnames'⟩
    rw [List.map_append, List.filter_append, hblocks, hblocks']
  trimmed expression hmem := by
    rcases Option.or_eq_some_iff.mp hmem with hlast | ⟨-, hlast⟩
    · exact hsecond.trimmed expression hlast
    · exact hfirst.trimmed expression hlast

theorem isTrimmed_of_expression? {block : Block} {expression : String}
    (h : expression? block = some expression) : IsTrimmed expression.toList := by
  cases block with
  | exporting src =>
      cases hclass : classify src with
      | default found =>
          obtain rfl : found = expression := by simpa [expression?, hclass] using h
          obtain ⟨rest, -, rfl⟩ := (classify_eq_default_iff src found).mp hclass
          rw [String.toList_ofList]
          exact isTrimmed_expression rest
      | rejected _ | named _ _ | other _ => simp [expression?, hclass] at h
  | frontmatter _ | importing _ | prose _ | code _ _ | markup _ | comment _ => cases h

theorem sound_singleton (block : Block) : Sound [block] (summary [block]) where
  declared declaration hmem := (mem_nonempty.mp hmem).2
  named := by
    rw [summary_singleton]
    cases hname : exportedName? block with
    | none => exact ⟨[], by simp [hname], List.nil_sublist _, List.Forall₂.nil⟩
    | some name =>
        cases block with
        | exporting src =>
            obtain ⟨statement, hclass⟩ : ∃ statement, classify src = .named name statement := by
              cases hclass : classify src <;> simp_all [exportedName?]
            have hintroduces := introduces_of_named hclass
            have hne := ne_empty_of_introduces hintroduces
            refine ⟨[src], by simp [hname], ?_, .cons hintroduces .nil⟩
            simp [declaration?, hclass, nonempty, hne]
        | frontmatter _ | importing _ | prose _ | code _ _ | markup _ | comment _ => cases hname
  trimmed expression hmem := by
    rw [summary_singleton] at hmem
    exact isTrimmed_of_expression? hmem

-- One block keeps what holds of a preamble, so that it holds of every document.
theorem sound_summary (blocks : List Block) : Sound blocks (summary blocks) := by
  induction blocks with
  | nil => exact sound_empty
  | cons block blocks ih =>
      rw [summary_cons]
      exact (sound_singleton block).append ih

theorem sound_of_build {blocks : List Block} {preamble : Preamble}
    (h : (build blocks).outcome = .ok preamble) : Sound blocks preamble := by
  obtain ⟨-, rfl⟩ := outcome_build_eq_ok_iff.mp h
  exact sound_summary blocks

namespace Sound

variable {blocks : List Block} {preamble : Preamble} (h : Sound blocks preamble)
include h

theorem length_exportNames_le : preamble.exportNames.length ≤ preamble.declarations.length := by
  obtain ⟨statements, -, hsublist, hnames⟩ := h.named
  rw [hnames.length_eq]
  exact hsublist.length_le

theorem isName_of_mem {name : String} (hmem : name ∈ preamble.exportNames) : IsName name.toList := by
  obtain ⟨statements, -, -, hnames⟩ := h.named
  have hboth := hnames.imp fun name statement hname => And.intro hname.2.1 hname
  exact ((List.forall₂_and_left _ _).mp hboth).1 name hmem

end Sound

end Preamble

end DocModule
