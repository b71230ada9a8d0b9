import DocModule.Proofs.Export.Specifiers

namespace DocModule

namespace Text

-- Ranges without a character in common.
def Ranges.apart (ranges others : Ranges) : Bool :=
  ranges.all fun range => others.all fun other => range.2 < other.1 || other.2 < range.1

theorem Ranges.covers_of_apart {ranges others : Ranges} (h : ranges.apart others) {c : Char}
    (hc : ranges.covers c) : others.covers c = false := by
  simp only [covers, List.any_eq_true, Bool.and_eq_true, decide_eq_true_eq] at hc
  obtain ⟨range, hrange, hfirst, hlast⟩ := hc
  simp only [covers, List.any_eq_false, Bool.and_eq_true, decide_eq_true_eq]
  intro other hother
  have hapart := List.all_eq_true.mp (List.all_eq_true.mp h range hrange) other hother
  simp only [Bool.or_eq_true, decide_eq_true_eq] at hapart
  omega

theorem blankRanges_apart_wordRanges : blankRanges.apart wordRanges := by
  decide +kernel

-- A blank ends the word in front of it.
theorem not_isWord_of_isBlank {c : Char} (h : isBlank c) : isWord c = false := by
  rw [isWord]
  split
  · rw [Bool.eq_false_iff]
    intro hword
    have hpart : Export.isAsciiNamePart c := by simp [Export.isAsciiNamePart, hword]
    rw [(Export.not_blank_of_isAsciiNamePart hpart).1] at h
    cases h
  · exact Ranges.covers_of_apart blankRanges_apart_wordRanges h

end Text

namespace Export

open Text

-- A clause that names another module, with a blank after its keyword.
def IsSpacedFromClause (tail : List Char) : Prop :=
  ∃ blanks space rest, Blanks blanks ∧ isBlank space ∧
    tail = blanks ++ "from".toList ++ space :: rest

-- A closing brace somewhere in the text is followed by a clause of a kind.
def HasClause (clause : List Char → Prop) (text : List Char) : Prop :=
  ∃ before after, text = before ++ '\x7d' :: after ∧ clause after

theorem isFromClause_of_spaced {tail : List Char} (h : IsSpacedFromClause tail) :
    IsFromClause tail := by
  obtain ⟨blanks, space, rest, hblanks, hspace, rfl⟩ := h
  refine ⟨blanks, space :: rest, hblanks, ?_, rfl⟩
  simp [EndsWord, not_isWord_of_isBlank hspace]

@[simp] theorem not_hasClause_nil (clause : List Char → Prop) : ¬ HasClause clause [] := by
  simp [HasClause]

theorem hasClause_cons {clause : List Char → Prop} {c : Char} {text : List Char} :
    HasClause clause (c :: text) ↔ c = '\x7d' ∧ clause text ∨ HasClause clause text := by
  constructor
  · rintro ⟨before, after, htext, hclause⟩
    cases before with
    | nil =>
        obtain ⟨rfl, rfl⟩ := List.cons.inj htext
        exact .inl ⟨rfl, hclause⟩
    | cons first before =>
        obtain ⟨rfl, rfl⟩ := List.cons.inj htext
        exact .inr ⟨before, after, rfl, hclause⟩
  · rintro (⟨rfl, hclause⟩ | ⟨before, after, rfl, hclause⟩)
    · exact ⟨[], text, rfl, hclause⟩
    · exact ⟨c :: before, after, rfl, hclause⟩

theorem isSome_afterBlanks?_iff {text : List Char} :
    (afterBlanks? text).isSome ↔ ∃ space rest, isBlank space ∧ text = space :: rest := by
  cases text with
  | nil => simp [afterBlanks?]
  | cons c text => by_cases hc : isBlank c <;> simp [afterBlanks?, hc]

theorem isSome_spacedFrom_iff {tail : List Char} :
    ((afterWord? "from" (trimStart tail)).bind afterBlanks?).isSome ↔ IsSpacedFromClause tail := by
  rw [Option.isSome_bind, Option.any_eq_true]
  simp only [afterWord?_trimStart_eq_some_iff "from" (by decide), isSome_afterBlanks?_iff]
  constructor
  · rintro ⟨_, ⟨blanks, hblanks, rfl⟩, space, rest, hspace, rfl⟩
    exact ⟨blanks, space, rest, hblanks, hspace, rfl⟩
  · rintro ⟨blanks, space, rest, hblanks, hspace, rfl⟩
    exact ⟨_, ⟨blanks, hblanks, rfl⟩, space, rest, hspace, rfl⟩

-- The search looks at every closing brace, that of the names and all that come later.
theorem hasFromClause_iff {text : List Char} :
    hasFromClause text ↔ HasClause IsSpacedFromClause text := by
  induction text with
  | nil => simp [hasFromClause]
  | cons c text ih =>
      rw [hasClause_cons, hasFromClause, Bool.or_eq_true, Bool.and_eq_true, decide_eq_true_eq,
        isSome_spacedFrom_iff, ih]

section Form

variable {src : String} {form : ReExport} {names tail : List Char}

variable (hrejected : classify src = .rejected form)
  (hlist : IsNameList (trim src.toList) names tail)
include hrejected hlist

-- The form that is reported says whether a clause has been found.
theorem form_eq_fromModule_iff :
    form = .fromModule ↔ HasClause IsSpacedFromClause ('\x7d' :: tail) := by
  have hclause : hasFromClause (trim src.toList) = hasFromClause ('\x7d' :: tail) := by
    obtain ⟨blanks, hblanks, hnames, htext⟩ := hlist
    rw [htext, hasFromClause_append]
    simp [not_mem_brace_of_blanks hblanks, hnames]
  have hform : form = if hasFromClause ('\x7d' :: tail) then .fromModule else .localAlias := by
    rw [classify_of_isNameList hlist, hclause] at hrejected
    split at hrejected
    · exact (Export.rejected.inj hrejected).symm
    · cases hrejected
  rw [hform, ← hasFromClause_iff]
  cases hasFromClause ('\x7d' :: tail) <;> simp

-- What a rejected statement is reported as. A clause with a blank after its keyword makes it a
-- re-export from another module, also one that stands after a later closing brace, and a statement
-- without a clause after any of its closing braces is an alias. So where the braces of the names are
-- the only ones and the keyword of the clause has a blank after it, the report is about the statement's
-- own clause.
theorem classify_rejected_form :
    (HasClause IsSpacedFromClause ('\x7d' :: tail) → form = .fromModule) ∧
    (¬ HasClause IsFromClause ('\x7d' :: tail) → form = .localAlias) ∧
    ('\x7d' ∉ tail → (IsFromClause tail → IsSpacedFromClause tail) →
      (form = .fromModule ↔ IsFromClause tail)) := by
  have hspaced := (form_eq_fromModule_iff hrejected hlist).mpr
  have hnone : ¬ HasClause IsFromClause ('\x7d' :: tail) → form = .localAlias := by
    intro hclause
    cases hform : form with
    | localAlias => rfl
    | fromModule =>
        obtain ⟨before, after, htail, hafter⟩ := (form_eq_fromModule_iff hrejected hlist).mp hform
        exact absurd ⟨before, after, htail, isFromClause_of_spaced hafter⟩ hclause
  refine ⟨hspaced, hnone, fun hbrace hown => ⟨fun hform => ?_, fun hfrom => ?_⟩⟩
  · rcases hasClause_cons.mp ((form_eq_fromModule_iff hrejected hlist).mp hform) with
      ⟨-, hclause⟩ | hlater
    · exact isFromClause_of_spaced hclause
    · obtain ⟨before, after, rfl, -⟩ := hlater
      simp at hbrace
  · exact hspaced (hasClause_cons.mpr (.inl ⟨rfl, hown hfrom⟩))

end Form

-- A clause right after the names, and a statement that has none.
theorem classify_rejected_form_own_clause :
    let spaced := "export \x7b Layout as default \x7d from './layouts'"
    let plain := "export \x7b a, Layout as default \x7d;"
    (IsNameList (trim spaced.toList) " Layout as default ".toList " from './layouts'".toList ∧
      classify spaced = .rejected .fromModule ∧
      ∀ form, classify spaced = .rejected form →
        (form = .fromModule ↔ IsFromClause " from './layouts'".toList)) ∧
    (IsNameList (trim plain.toList) " a, Layout as default ".toList ";".toList ∧
      classify plain = .rejected .localAlias ∧
      ∀ form, classify plain = .rejected form → form = .localAlias) := by
  intro spaced plain
  constructor
  · have hlist : IsNameList (trim spaced.toList) " Layout as default ".toList
        " from './layouts'".toList :=
      ⟨[' '], blanks_space, by decide, by decide +kernel⟩
    have hown : IsSpacedFromClause " from './layouts'".toList :=
      ⟨[' '], ' ', "'./layouts'".toList, blanks_space, rfl, rfl⟩
    exact ⟨hlist, by decide +kernel, fun form hform =>
      (classify_rejected_form hform hlist).2.2 (by decide) fun _ => hown⟩
  · have hlist : IsNameList (trim plain.toList) " a, Layout as default ".toList ";".toList :=
      ⟨[' '], blanks_space, by decide, by decide +kernel⟩
    have hnone : ¬ HasClause IsFromClause ('\x7d' :: ";".toList) := by
      have hsemicolon : ¬ IsFromClause [';'] := by
        rw [← startsFrom_iff]
        decide
      simp [hasClause_cons, hsemicolon]
    exact ⟨hlist, by decide +kernel, fun form hform => (classify_rejected_form hform hlist).2.1 hnone⟩

-- Two reports that are not about the statement's own clause: one found in a comment after a local alias,
-- and one missed since its keyword has no blank after it.
theorem classify_rejected_form_mismatch :
    (∃ names tail, IsNameList (trim
        "export \x7b Layout as default \x7d // was: export \x7b default \x7d from './Layout'".toList)
        names tail ∧ ¬ IsFromClause tail ∧
      classify "export \x7b Layout as default \x7d // was: export \x7b default \x7d from './Layout'" =
        .rejected .fromModule) ∧
    (∃ names tail, IsNameList (trim "export \x7b default \x7d from'./Layout'".toList) names tail ∧
      IsDefaultAlone names ∧ IsFromClause tail ∧
      classify "export \x7b default \x7d from'./Layout'" = .rejected .localAlias) := by
  constructor
  · refine ⟨" Layout as default ".toList,
      " // was: export \x7b default \x7d from './Layout'".toList,
      ⟨[' '], blanks_space, by decide, by decide +kernel⟩, ?_, by decide +kernel⟩
    rw [← startsFrom_iff]
    decide
  · refine ⟨" default ".toList, " from'./Layout'".toList,
      ⟨[' '], blanks_space, by decide, by decide +kernel⟩,
      ⟨[' '], [' '], blanks_space, blanks_space, rfl⟩, ?_, by decide +kernel⟩
    rw [← startsFrom_iff]
    decide

end Export

end DocModule
