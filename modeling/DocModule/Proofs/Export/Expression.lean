import DocModule.Proofs.Export.Grammar
import Mathlib.Data.List.Infix

namespace DocModule

namespace Text

-- A text with no blank at either end.
def IsTrimmed (text : List Char) : Prop :=
  (∀ c ∈ text.head?, isBlank c = false) ∧ ∀ c ∈ text.getLast?, isBlank c = false

theorem trim_of_isTrimmed {text : List Char} (h : IsTrimmed text) : trim text = text := by
  apply trim_eq_self
  · simpa [Option.all_eq_true] using h.1
  · simpa [Option.all_eq_true] using h.2

theorem trimEnd_of_isTrimmed {text : List Char} (h : IsTrimmed text) : trimEnd text = text := by
  have hstart : trimStart text = text :=
    trimStart_eq_self (by simpa [Option.all_eq_true] using h.1)
  have htrim := trim_of_isTrimmed h
  rwa [trim, hstart] at htrim

theorem getLast?_trimEnd (text : List Char) : ∀ c ∈ (trimEnd text).getLast?, isBlank c = false := by
  rw [trimEnd, List.getLast?_reverse]
  simpa [Option.all_eq_true] using head?_trimStart text.reverse

theorem exists_blanks_trimEnd (text : List Char) :
    ∃ blanks, Export.Blanks blanks ∧ text = trimEnd text ++ blanks := by
  obtain ⟨blanks, hblanks, htext⟩ := Export.exists_blanks_trimStart text.reverse
  refine ⟨blanks.reverse, Export.blanks_reverse.mpr hblanks, ?_⟩
  rw [trimEnd, ← List.reverse_append, ← htext, List.reverse_reverse]

-- A part at the front of a text starts like the text.
theorem head?_of_isPrefix {first text : List Char} (hfront : first <+: text)
    (h : ∀ c ∈ text.head?, isBlank c = false) : ∀ c ∈ first.head?, isBlank c = false := by
  obtain ⟨rest, rfl⟩ := hfront
  intro c hc
  apply h c
  rw [List.head?_append, Option.mem_def.mp hc]
  rfl

theorem getLast?_of_isSuffix {last text : List Char} (hsuffix : last <:+ text)
    (h : ∀ c ∈ text.getLast?, isBlank c = false) : ∀ c ∈ last.getLast?, isBlank c = false := by
  obtain ⟨front, rfl⟩ := hsuffix
  intro c hc
  apply h c
  rw [List.getLast?_append, Option.mem_def.mp hc]
  rfl

theorem isTrimmed_trimEnd {text : List Char} (h : ∀ c ∈ text.head?, isBlank c = false) :
    IsTrimmed (trimEnd text) := by
  obtain ⟨blanks, -, htext⟩ := exists_blanks_trimEnd text
  have hfront : trimEnd text <+: text := ⟨blanks, htext.symm⟩
  exact ⟨head?_of_isPrefix hfront h, getLast?_trimEnd text⟩

theorem isTrimmed_trim (text : List Char) : IsTrimmed (trim text) := by
  apply isTrimmed_trimEnd
  simpa [Option.all_eq_true] using head?_trimStart text

theorem trim_isInfix (text : List Char) : trim text <:+: text := by
  obtain ⟨before, -, hstart⟩ := Export.exists_blanks_trimStart text
  obtain ⟨after, -, hend⟩ := exists_blanks_trimEnd (trimStart text)
  refine ⟨before, after, ?_⟩
  rw [List.append_assoc, trim, ← hend, ← hstart]

end Text

namespace Export

open Text

-- Two semicolons at the end of a text, with nothing but blanks between them.
def EndsTwice (text : List Char) : Prop :=
  ∃ before blanks, Blanks blanks ∧ text = before ++ ';' :: (blanks ++ [';'])

-- What is taken off the end of an expression: nothing where it does not end in a semicolon, or else
-- this one semicolon and the blanks in front of it.
theorem expression_cases (text : List Char) :
    trim text = expression text ∧ (expression text).getLast? ≠ some ';' ∨
      ∃ blanks, Blanks blanks ∧ trim text = expression text ++ blanks ++ [';'] := by
  by_cases hlast : (trim text).getLast? = some ';'
  · have hdrop : dropSemicolon (trim text) = (trim text).dropLast := if_pos hlast
    obtain ⟨blanks, hblanks, hend⟩ := exists_blanks_trimEnd (trim text).dropLast
    refine .inr ⟨blanks, hblanks, ?_⟩
    rw [expression, hdrop, ← hend]
    exact (List.dropLast_append_getLast? _ hlast).symm
  · have hdrop : dropSemicolon (trim text) = trim text := if_neg hlast
    have hsame : expression text = trim text := by
      rw [expression, hdrop, trimEnd_of_isTrimmed (isTrimmed_trim text)]
    exact .inl ⟨hsame.symm, hsame ▸ hlast⟩

theorem expression_isPrefix (text : List Char) : expression text <+: trim text := by
  rcases expression_cases text with ⟨hsame, -⟩ | ⟨blanks, -, hdropped⟩
  · exact hsame ▸ List.prefix_rfl
  · exact ⟨blanks ++ [';'], by rw [hdropped, List.append_assoc]⟩

theorem isTrimmed_expression (text : List Char) : IsTrimmed (expression text) :=
  ⟨head?_of_isPrefix (expression_isPrefix text) (isTrimmed_trim text).1, getLast?_trimEnd _⟩

-- Only one semicolon is taken off, so one is left exactly where there were two.
theorem getLast?_expression_iff (text : List Char) :
    (expression text).getLast? = some ';' ↔ EndsTwice (trim text) := by
  constructor
  · intro hlast
    rcases expression_cases text with ⟨-, hnone⟩ | ⟨blanks, hblanks, htrim⟩
    · exact absurd hlast hnone
    · obtain ⟨before, hbefore⟩ := List.getLast?_eq_some_iff.mp hlast
      refine ⟨before, blanks, hblanks, ?_⟩
      rw [htrim, hbefore]
      simp
  · rintro ⟨before, blanks, hblanks, htwice⟩
    rcases expression_cases text with ⟨hsame, hnone⟩ | ⟨blanks', hblanks', htrim⟩
    · have hlast : (trim text).getLast? = some ';' := by
        rw [htwice, ← List.cons_append, ← List.append_assoc]
        exact List.getLast?_concat
      exact absurd (hsame ▸ hlast) hnone
    · have htexts : expression text ++ blanks' = (before ++ [';']) ++ blanks := by
        have hcut : expression text ++ blanks' ++ [';'] = (before ++ [';']) ++ blanks ++ [';'] := by
          rw [← htrim, htwice]
          simp
        exact List.append_cancel_right hcut
      have hsemicolon : ∀ c ∈ (before ++ [';']).getLast?, isBlank c = false := by
        simp [isBlank, blankRanges, Ranges.covers]
      obtain ⟨hexpression, -⟩ := append_inj_of_last_kind isBlank (isTrimmed_expression text).2 hblanks'
        hsemicolon hblanks htexts
      rw [hexpression]
      simp

theorem expression_eq_self_iff {text : List Char} (h : IsTrimmed text) :
    expression text = text ↔ text.getLast? ≠ some ';' := by
  rcases expression_cases text with ⟨hsame, hnone⟩ | ⟨blanks, -, hdropped⟩
  · rw [trim_of_isTrimmed h] at hsame
    rw [← hsame] at hnone
    exact iff_of_true hsame.symm hnone
  · rw [trim_of_isTrimmed h] at hdropped
    have hlast : text.getLast? = some ';' := by
      rw [hdropped]
      exact List.getLast?_concat
    have hshorter : expression text ≠ text := by
      intro hsame
      have hlength := congrArg List.length hdropped
      simp only [hsame, List.length_append, List.length_cons, List.length_nil] at hlength
      omega
    exact iff_of_false hshorter (not_not_intro hlast)

theorem endsTwice_append_iff {frame : List Char} (hframe : ';' ∉ frame) (text : List Char) :
    EndsTwice (frame ++ text) ↔ EndsTwice text := by
  constructor
  · rintro ⟨before, blanks, hblanks, htwice⟩
    rcases List.append_eq_append_iff.mp htwice with ⟨between, rfl, htext⟩ | ⟨between, rfl, htext⟩
    · exact ⟨between, blanks, hblanks, htext⟩
    · -- the frame has no semicolon, so it ends where the text in front of the first one does
      cases between with
      | nil => exact ⟨[], blanks, hblanks, by simpa using htext.symm⟩
      | cons c between =>
          obtain ⟨rfl, -⟩ := List.cons.inj htext
          exact absurd (List.mem_append_right before List.mem_cons_self) hframe
  · rintro ⟨before, blanks, hblanks, rfl⟩
    exact ⟨frame ++ before, blanks, hblanks, by simp⟩

theorem not_mem_semicolon_of_blanks {text : List Char} (h : Blanks text) : ';' ∉ text := by
  intro hmem
  exact absurd (h _ hmem) (by decide)

-- Where a text has no blanks at its end, those at its front do not count.
theorem endsTwice_trim_iff {text : List Char} (h : ∀ c ∈ text.getLast?, isBlank c = false) :
    EndsTwice (trim text) ↔ EndsTwice text := by
  obtain ⟨blanks, hblanks, htext⟩ := exists_blanks_trimStart text
  have hsuffix : trimStart text <:+ text := ⟨blanks, htext.symm⟩
  have hstart : IsTrimmed (trimStart text) :=
    ⟨by simpa [Option.all_eq_true] using head?_trimStart text, getLast?_of_isSuffix hsuffix h⟩
  have htwice := endsTwice_append_iff (not_mem_semicolon_of_blanks hblanks) (trimStart text)
  rw [trim, trimEnd_of_isTrimmed hstart, ← htwice, ← htext]

theorem classify_eq_default_iff (src expression : String) :
    classify src = .default expression ↔
      ∃ rest, afterDefault? (trim src.toList) = some rest ∧
        expression = String.ofList (Export.expression rest) := by
  rw [classify]
  cases hdefault : afterDefault? (trim src.toList) with
  | some rest => simp [eq_comm]
  | none =>
      simp only [reduceCtorEq, false_and, exists_false, iff_false]
      split
      · simp
      · cases declared? (trim src.toList) <;> simp

-- A default export of an expression that is written without blanks around it.
theorem classify_export_default {expression : String} (h : IsTrimmed expression.toList) :
    classify ("export default " ++ expression) =
      .default (String.ofList (Export.expression expression.toList)) := by
  rw [classify_eq_default_iff]
  by_cases hempty : expression = ""
  · subst hempty
    exact ⟨[], by decide, rfl⟩
  · have hne : expression.toList ≠ [] := by simpa using hempty
    have htext : ("export default " ++ expression).toList =
        "export".toList ++ [' '] ++ "default".toList ++ (' ' :: expression.toList) := by
      simp
    have htrimmed : IsTrimmed ("export default " ++ expression).toList := by
      constructor
      · rw [htext]
        simp [isBlank, blankRanges, Ranges.covers]
      · intro c hc
        apply h.2 c
        rw [String.toList_append, List.getLast?_append] at hc
        rwa [List.getLast?_eq_some_getLast hne] at hc ⊢
    have hspace : trim (' ' :: expression.toList) = trim expression.toList :=
      congrArg trimEnd (List.dropWhile_cons_of_pos isBlank_space)
    refine ⟨' ' :: expression.toList, ?_, by rw [Export.expression, Export.expression, hspace]⟩
    rw [trim_of_isTrimmed htrimmed, afterDefault?_eq_some_iff]
    exact ⟨[' '], ⟨by simp, blanks_space⟩, by simp [EndsWord, isWord, isAsciiWord], htext⟩

-- What stands between the keyword of a default export and the end of its statement.
theorem frame_of_afterDefault? {text rest : List Char} (h : afterDefault? text = some rest) :
    ∃ frame, ';' ∉ frame ∧ text = frame ++ rest := by
  obtain ⟨gap, hgap, -, rfl⟩ := afterDefault?_eq_some_iff.mp h
  refine ⟨"export".toList ++ gap ++ "default".toList, ?_, rfl⟩
  simp [not_mem_semicolon_of_blanks hgap.2]

-- The expression of a default export is a part of its source without blanks around it. It is in
-- normal form, with no semicolon at its end and the same when it is exported again, unless the
-- statement ends in two semicolons: one semicolon is taken off, and not all of them.
theorem classify_default_expression {src expression : String}
    (h : classify src = .default expression) :
    IsTrimmed expression.toList ∧ expression.toList <:+: src.toList ∧
    (expression.toList.getLast? ≠ some ';' ↔ ¬ EndsTwice (trim src.toList)) ∧
    (classify ("export default " ++ expression) = .default expression ↔
      ¬ EndsTwice (trim src.toList)) := by
  obtain ⟨rest, hrest, rfl⟩ := (classify_eq_default_iff src expression).mp h
  obtain ⟨frame, hframe, htext⟩ := frame_of_afterDefault? hrest
  have hsuffix : rest <:+ trim src.toList := ⟨frame, htext.symm⟩
  have hlast := getLast?_of_isSuffix hsuffix (isTrimmed_trim src.toList).2
  have htwice : (Export.expression rest).getLast? = some ';' ↔ EndsTwice (trim src.toList) := by
    rw [getLast?_expression_iff, endsTwice_trim_iff hlast, htext, endsTwice_append_iff hframe]
  have htrimmed := isTrimmed_expression rest
  rw [String.toList_ofList]
  refine ⟨htrimmed, ?_, not_congr htwice, ?_⟩
  · calc Export.expression rest
      _ <:+: trim rest := (expression_isPrefix rest).isInfix
      _ <:+: rest := trim_isInfix rest
      _ <:+: trim src.toList := hsuffix.isInfix
      _ <:+: src.toList := trim_isInfix src.toList
  · rw [classify_export_default (by rwa [String.toList_ofList]), String.toList_ofList,
      Export.default.injEq, String.ofList_inj, expression_eq_self_iff htrimmed, Ne, htwice]

-- A semicolon inside the expression stays, and the one after a blank at the end goes.
theorem classify_default_expression_inner_semicolon :
    let src := "\n export default () => \x7b a(); b() \x7d ; "
    let expression := "() => \x7b a(); b() \x7d"
    classify src = .default expression ∧ IsTrimmed expression.toList ∧
      expression.toList <:+: src.toList ∧
      classify ("export default " ++ expression) = .default expression := by
  intro src expression
  have hdefault : classify src = .default expression := by decide +kernel
  obtain ⟨htrimmed, hinfix, hsemicolon, hagain⟩ := classify_default_expression hdefault
  have hlast : expression.toList.getLast? ≠ some ';' := by decide
  exact ⟨hdefault, htrimmed, hinfix, hagain.mpr (hsemicolon.mp hlast)⟩

-- Two semicolons leave one at the end of the expression, which goes when it is exported again.
theorem classify_default_expression_two_semicolons :
    classify "export default Foo;;" = .default "Foo;" ∧ "Foo;".toList.getLast? = some ';' ∧
      classify ("export default " ++ "Foo;") = .default "Foo" := by
  decide +kernel

end Export

end DocModule
