import DocModule.Body
import DocModule.Proofs.Frontmatter.DocComment
import DocModule.Proofs.Text.Mark

namespace DocModule.Document

open Text Frontmatter

-- What a doc comment holds between its two marks: the rest of its first line, the lines between the
-- first and the last, and the blank that the last line starts with.
def docBody (props : Props) : String :=
  stacked ("*" :: (recognizedKeys.filterMap (docLine? props) ++ [attribution] ++ [" "]))

theorem stacked_framed (first last : String) {lines : List String} (h : lines ≠ []) :
    stacked (first :: (lines ++ [last])) = first ++ "\n" ++ (stacked lines ++ "\n" ++ last) := by
  unfold stacked
  rw [joined_cons "\n" first (by simp), joined_append "\n" h (by simp), joined_singleton]

theorem toList_docComment (props : Props) :
    (docComment props).toList = "/*".toList ++ ((docBody props).toList ++ (commentEnd ++ [])) := by
  have hlines : recognizedKeys.filterMap (docLine? props) ++ [attribution] ≠ [] := by simp
  have hframe : docLines props =
      "/**" :: (recognizedKeys.filterMap (docLine? props) ++ [attribution] ++ [" */"]) := by
    simp [docLines]
  rw [docComment_eq_stacked, hframe, docBody, stacked_framed _ _ hlines, stacked_framed _ _ hlines]
  simp [commentEnd]

section Lines

variable {props : Props}

theorem not_infix_labelStart : ∀ key ∈ recognizedKeys,
    ¬ commentEnd <:+: " * ".toList ++ (key.toList ++ [':']) := by
  decide

-- A blank stands before the text of a property, and no key holds the mark.
theorem infix_docLine_iff {key line : String} (hkey : key ∈ recognizedKeys)
    (hline : docLine? props key = some line) :
    commentEnd <:+: line.toList ↔ commentEnd <:+: (textOf props key).toList := by
  have hlabel : line.toList =
      (" * ".toList ++ (key.toList ++ [':'])) ++ ' ' :: (textOf props key).toList := by
    rw [(docLine?_eq_some_iff.mp hline).2]
    simp [label]
  have hblank : ' ' ∉ commentEnd := by decide
  rw [hlabel, infix_append_cons_iff hblank]
  exact or_iff_right (not_infix_labelStart key hkey)

theorem not_infix_docFrame : ∀ line ∈ ["*", attribution, " "], ¬ commentEnd <:+: line.toList := by
  decide

theorem infix_docBody_iff (props : Props) :
    commentEnd <:+: (docBody props).toList ↔
      ∃ key ∈ recognizedKeys, commentEnd <:+: (textOf props key).toList := by
  have hbreak : '\n' ∉ commentEnd := by decide
  rw [docBody, infix_stacked_iff hbreak (by decide)]
  constructor
  · rintro ⟨line, hline, hmark⟩
    have hframe : line ∉ ["*", attribution, " "] := fun hmem => not_infix_docFrame line hmem hmark
    simp only [List.mem_cons, List.mem_append, List.mem_filterMap, List.not_mem_nil, or_false,
      not_or] at hline hframe
    obtain ⟨key, hkey, hdoc⟩ : ∃ key ∈ recognizedKeys, docLine? props key = some line := by
      simpa only [hframe, or_false, false_or] using hline
    exact ⟨key, hkey, (infix_docLine_iff hkey hdoc).mp hmark⟩
  · rintro ⟨key, hkey, hmark⟩
    have htext : textOf props key ≠ "" := by
      intro hempty
      rw [hempty] at hmark
      exact absurd hmark (by decide)
    obtain ⟨line, hdoc⟩ := exists_docLine? htext
    refine ⟨line, ?_, (infix_docLine_iff hkey hdoc).mpr hmark⟩
    have hmem : line ∈ recognizedKeys.filterMap (docLine? props) :=
      List.mem_filterMap.mpr ⟨key, hkey, hdoc⟩
    simp [hmem]

end Lines

-- A missing property has no text that could hold a mark.
theorem infix_textOf_iff (props : Props) (key : String) :
    commentEnd <:+: (textOf props key).toList ↔
      ∃ text, props.get? key = some text ∧ commentEnd <:+: text.toList := by
  have hempty : ¬ commentEnd <:+: "".toList := by decide
  unfold textOf
  cases props.get? key with
  | none => simpa using hempty
  | some text => simp

-- The doc comment of a module ends where it should exactly when no text that it shows holds the mark
-- that ends a comment, and so does a comment in the body. What stands around these texts never makes
-- up a mark together with them.
theorem comments_close_at_end (props : Props) (src : String) :
    ("/*".toList <+: (docComment props).toList ∧
      ((∃ place, IsFirstFrom 2 commentEnd (docComment props).toList place ∧
          (docComment props).toList.drop place = commentEnd) ↔
        ¬ ∃ key ∈ recognizedKeys, ∃ text, props.get? key = some text ∧ commentEnd <:+: text.toList)) ∧
    ∃ fragment, Body.fragment? (.comment src) = some fragment ∧
      fragment.toList = "\x7b/*".toList ++ (src.toList ++ (commentEnd ++ ['\x7d'])) ∧
      ((∃ place, IsFirstFrom 3 commentEnd fragment.toList place ∧
          fragment.toList.drop place = commentEnd ++ ['\x7d']) ↔
        ¬ commentEnd <:+: src.toList) := by
  have hdoc := closes_at_end_iff "/*".toList (docBody props).toList []
  have hcomment := closes_at_end_iff "\x7b/*".toList src.toList ['\x7d']
  refine ⟨⟨?_, ?_⟩, "\x7b/*" ++ src ++ "*/\x7d", rfl, ?_⟩
  · rw [toList_docComment]
    exact List.prefix_append _ _
  · rw [← toList_docComment, infix_docBody_iff] at hdoc
    simp only [infix_textOf_iff] at hdoc
    exact hdoc
  · have htext : ("\x7b/*" ++ src ++ "*/\x7d").toList =
        "\x7b/*".toList ++ (src.toList ++ (commentEnd ++ ['\x7d'])) := by
      simp [commentEnd]
    refine ⟨htext, ?_⟩
    rw [htext]
    exact hcomment

-- A source that starts with the second character of the mark and ends in the first one.
example : ∃ fragment, Body.fragment? (.comment "/ a *") = some fragment ∧
    IsFirstFrom 3 commentEnd fragment.toList 8 :=
  ⟨_, rfl, by decide⟩

end DocModule.Document
