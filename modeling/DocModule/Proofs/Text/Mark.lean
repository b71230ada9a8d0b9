import DocModule.Proofs.Text.Joined
import Mathlib.Data.List.Infix

namespace DocModule.Text

-- The first place of a mark in a text, from a given place on.
def IsFirstFrom (start : Nat) (mark text : List Char) (place : Nat) : Prop :=
  start ≤ place ∧ mark <+: text.drop place ∧
    ∀ earlier < place, start ≤ earlier → ¬ mark <+: text.drop earlier

instance (start : Nat) (mark text : List Char) (place : Nat) :
    Decidable (IsFirstFrom start mark text place) :=
  inferInstanceAs (Decidable (_ ∧ _ ∧ _))

section Seams

variable {mark : List Char} {c : Char}

theorem prefix_append_cons_iff (hc : c ∉ mark) (before after : List Char) :
    mark <+: before ++ c :: after ↔ mark <+: before := by
  constructor
  · intro h
    induction before generalizing mark with
    | nil =>
        rcases List.prefix_cons_iff.mp h with rfl | ⟨rest, rfl, -⟩
        · exact List.nil_prefix
        · exact absurd List.mem_cons_self hc
    | cons first before ih =>
        rcases List.prefix_cons_iff.mp h with rfl | ⟨rest, rfl, hrest⟩
        · exact List.nil_prefix
        · have hc' : c ∉ rest := fun hmem => hc (List.mem_cons_of_mem first hmem)
          exact List.cons_prefix_cons.mpr ⟨rfl, ih hc' hrest⟩
  · intro h
    exact h.trans (List.prefix_append before (c :: after))

-- A mark does not reach across a character that it does not have.
theorem infix_append_cons_iff (hc : c ∉ mark) (before after : List Char) :
    mark <:+: before ++ c :: after ↔ mark <:+: before ∨ mark <:+: after := by
  induction before with
  | nil =>
      have hprefix := prefix_append_cons_iff hc [] after
      rw [List.nil_append, List.infix_cons_iff, List.infix_nil, ← List.prefix_nil]
      exact or_congr_left hprefix
  | cons first before ih =>
      have hprefix := prefix_append_cons_iff hc (first :: before) after
      rw [List.cons_append] at hprefix ⊢
      rw [List.infix_cons_iff, hprefix, ih, List.infix_cons_iff, or_assoc]

theorem infix_stacked_iff (hbreak : '\n' ∉ mark) (hmark : mark ≠ []) (lines : List String) :
    mark <:+: (stacked lines).toList ↔ ∃ line ∈ lines, mark <:+: line.toList := by
  unfold stacked
  induction lines with
  | nil => simpa using hmark
  | cons line rest ih =>
      by_cases hrest : rest = []
      · subst hrest
        simp
      · have htext : (joined "\n" (line :: rest)).toList =
            line.toList ++ '\n' :: (joined "\n" rest).toList := by
          simp [joined_cons "\n" line hrest]
        rw [htext, infix_append_cons_iff hbreak, ih]
        simp

end Seams

-- The mark that ends a comment.
def commentEnd : List Char :=
  ['*', '/']

-- At the seam before its last mark a comment ends nowhere: a text that ends in the first character of
-- the mark is followed by that character once more.
theorem infix_of_prefix_append {text last : List Char} (htext : text ≠ [])
    (h : commentEnd <+: text ++ (commentEnd ++ last)) : commentEnd <:+: text := by
  rcases text with _ | ⟨first, _ | ⟨second, rest⟩⟩
  · exact absurd rfl htext
  · simp [commentEnd] at h
  · simp only [commentEnd, List.cons_append, List.cons_prefix_cons] at h
    obtain ⟨rfl, rfl, -⟩ := h
    exact List.IsPrefix.isInfix ⟨rest, rfl⟩

-- Between its opening and its last mark, a comment is not ended before that mark exactly when its body
-- does not hold one.
theorem closes_at_end_iff (opening body last : List Char) :
    (∃ place, IsFirstFrom opening.length commentEnd (opening ++ (body ++ (commentEnd ++ last))) place ∧
      (opening ++ (body ++ (commentEnd ++ last))).drop place = commentEnd ++ last) ↔
      ¬ commentEnd <:+: body := by
  have hdrop : ∀ place, (opening ++ (body ++ (commentEnd ++ last))).drop (opening.length + place) =
      (body ++ (commentEnd ++ last)).drop place := fun place => List.drop_length_add_append place
  constructor
  · rintro ⟨place, ⟨-, -, hfirst⟩, hend⟩ ⟨before, after, rfl⟩
    have hlength := congrArg List.length hend
    simp only [List.length_drop, List.length_append, commentEnd, List.length_cons] at hlength
    have hearlier : opening.length + before.length < place := by omega
    apply hfirst (opening.length + before.length) hearlier (by omega)
    rw [hdrop, List.append_assoc, List.append_assoc, List.drop_left]
    exact List.prefix_append _ _
  · intro hbody
    have hend : (opening ++ (body ++ (commentEnd ++ last))).drop (opening.length + body.length) =
        commentEnd ++ last := by rw [hdrop, List.drop_left]
    refine ⟨opening.length + body.length, ⟨by omega, ?_, ?_⟩, hend⟩
    · rw [hend]
      exact List.prefix_append _ _
    · intro earlier hlt hstart hat
      obtain ⟨place, rfl⟩ := Nat.exists_eq_add_of_le hstart
      have hplace : place < body.length := by omega
      rw [hdrop, List.drop_append_of_le_length (by omega)] at hat
      have hrest : body.drop place ≠ [] := by
        rw [Ne, List.drop_eq_nil_iff]
        omega
      have hinner := infix_of_prefix_append hrest hat
      exact hbody (hinner.trans (List.drop_suffix place body).isInfix)

end DocModule.Text
