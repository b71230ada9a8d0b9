import DocModule.Text.Joined

namespace DocModule.Text

theorem joined_eq_intercalate (between : String) (texts : List String) :
    joined between texts = between.intercalate texts := by
  induction texts with
  | nil => rfl
  | cons text rest ih =>
      by_cases h : rest = []
      · subst h
        simp
      · rw [joined_cons between text h, ih, String.intercalate_cons_of_ne_nil h]

@[simp] theorem nonempty_nil : nonempty [] = [] :=
  rfl

@[simp] theorem nonempty_append (texts others : List String) :
    nonempty (texts ++ others) = nonempty texts ++ nonempty others :=
  List.filter_append texts others

theorem mem_nonempty {text : String} {texts : List String} :
    text ∈ nonempty texts ↔ text ∈ texts ∧ text ≠ "" := by
  simp [nonempty]

-- Texts none of which is empty join to the empty text only if there are none of them.
theorem joined_eq_empty_iff (between : String) {texts : List String} (h : ∀ text ∈ texts, text ≠ "") :
    joined between texts = "" ↔ texts = [] := by
  cases texts with
  | nil => simp
  | cons text rest =>
      have hne : text ≠ "" := h text List.mem_cons_self
      by_cases hrest : rest = []
      · subst hrest
        simp [hne]
      · simp [joined_cons between text hrest, hne]

theorem paragraphs_nonempty_eq_empty_iff (texts : List String) :
    paragraphs (nonempty texts) = "" ↔ nonempty texts = [] :=
  joined_eq_empty_iff "\n\n" fun _ hmem => (mem_nonempty.mp hmem).2

theorem joined_append (between : String) {texts others : List String} (ht : texts ≠ [])
    (ho : others ≠ []) :
    joined between (texts ++ others) = joined between texts ++ between ++ joined between others := by
  simp only [joined_eq_intercalate]
  exact String.intercalate_append_of_ne_nil ht ho

theorem not_mem_toList_joined {c : Char} {between : String} (hbetween : c ∉ between.toList)
    {texts : List String} (htexts : ∀ text ∈ texts, c ∉ text.toList) :
    c ∉ (joined between texts).toList := by
  induction texts with
  | nil => simp
  | cons text rest ih =>
      have htext : c ∉ text.toList := htexts text List.mem_cons_self
      have hrest := ih fun other hmem => htexts other (List.mem_cons_of_mem _ hmem)
      by_cases h : rest = []
      · subst h
        simpa using htext
      · simp [joined_cons between text h, htext, hbetween, hrest]

-- One text below another with a blank line between them, unless one of them is empty.
def spaced (first second : String) : String :=
  if first = "" then second
  else if second = "" then first
  else first ++ "\n\n" ++ second

-- Two lists of paragraphs one after the other. An empty paragraph in one of them would take a blank
-- line of its own, so there may be none.
theorem paragraphs_append {texts others : List String} (ht : ∀ text ∈ texts, text ≠ "")
    (ho : ∀ text ∈ others, text ≠ "") :
    paragraphs (texts ++ others) = spaced (paragraphs texts) (paragraphs others) := by
  have hfirst : paragraphs texts = "" ↔ texts = [] := joined_eq_empty_iff "\n\n" ht
  have hsecond : paragraphs others = "" ↔ others = [] := joined_eq_empty_iff "\n\n" ho
  by_cases htexts : texts = []
  · subst htexts
    rw [spaced, if_pos (hfirst.mpr rfl), List.nil_append]
  · rw [spaced, if_neg (mt hfirst.mp htexts)]
    by_cases hothers : others = []
    · subst hothers
      rw [if_pos (hsecond.mpr rfl), List.append_nil]
    · rw [if_neg (mt hsecond.mp hothers)]
      exact joined_append "\n\n" htexts hothers

end DocModule.Text
