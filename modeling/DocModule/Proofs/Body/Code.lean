import DocModule.Body
import DocModule.Proofs.Text.Literal

namespace DocModule.Body

open Text

theorem toList_codeStart_some (language : String) :
    (codeStart (some language)).toList =
      "<Md name=\"code\" props=\x7b\x7b className: ".toList ++
        ((Quoted.literal ("language-" ++ language)).toList ++ " \x7d\x7d>".toList) := by
  unfold codeStart
  rw [String.toList_append, String.toList_append, List.append_assoc]

-- Behind the name of the element there is a blank if a language follows and a bracket if none does.
theorem codeStart_some_append_ne_none (language : String) (rest rest' : List Char) :
    (codeStart (some language)).toList ++ rest ≠ (codeStart none).toList ++ rest' := by
  intro h
  have hnone : (codeStart none).toList = "<Md name=\"code\"".toList ++ ['>'] := by decide
  have hsome : "<Md name=\"code\" props=\x7b\x7b className: ".toList =
      "<Md name=\"code\"".toList ++ ' ' :: "props=\x7b\x7b className: ".toList := by decide
  rw [toList_codeStart_some, hnone, hsome, List.append_assoc, List.append_assoc, List.append_assoc] at h
  have hchar := (List.cons.inj (List.append_cancel_left h)).1
  exact absurd hchar (by decide)

-- The start of an element of code can be told from what follows it, since the class in it is a literal
-- and so ends itself.
theorem codeStart_append_inj {language language' : Option String} {rest rest' : List Char}
    (h : (codeStart language).toList ++ rest = (codeStart language').toList ++ rest') :
    language = language' ∧ rest = rest' := by
  cases language with
  | none =>
      cases language' with
      | none => exact ⟨rfl, List.append_cancel_left h⟩
      | some language' => exact absurd h.symm (codeStart_some_append_ne_none language' rest' rest)
  | some language =>
      cases language' with
      | none => exact absurd h (codeStart_some_append_ne_none language rest rest')
      | some language' =>
          rw [toList_codeStart_some, toList_codeStart_some] at h
          simp only [List.append_assoc] at h
          have hliteral := List.append_cancel_left h
          obtain ⟨hclass, hrest⟩ := Quoted.literal_append_inj hliteral
          have hlanguage : language = language' := (String.append_right_inj "language-").mp hclass
          exact ⟨congrArg some hlanguage, List.append_cancel_left hrest⟩

theorem codeFragment_inj {src src' : String} {language language' : Option String}
    (h : codeFragment src language = codeFragment src' language') :
    src = src' ∧ language = language' := by
  unfold codeFragment at h
  have htext := congrArg String.toList h
  simp only [String.toList_append, List.append_assoc] at htext
  have hinner := List.append_cancel_left htext
  obtain ⟨hlanguage, hrest⟩ := codeStart_append_inj hinner
  have hsrc : src.toList = src'.toList := List.append_cancel_right hrest
  exact ⟨String.toList_inj.mp hsrc, hlanguage⟩

-- What code shows tells its text and its language, so that no other code shows the same, and an empty
-- language does not show as none.
theorem fragment?_code_eq_iff (src src' : String) (language language' : Option String) :
    fragment? (.code src language) = fragment? (.code src' language') ↔
      src = src' ∧ language = language' := by
  constructor
  · intro h
    exact codeFragment_inj (Option.some.inj h)
  · rintro ⟨rfl, rfl⟩
    rfl

-- Without escapes these two would show the same: the end of the class is in the source of one and in
-- the language of the other.
example : fragment? (.code "b\" \x7d\x7d>c" (some "a")) ≠
    fragment? (.code "c" (some "a\" \x7d\x7d>b")) := by
  decide

end DocModule.Body
