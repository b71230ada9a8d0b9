import DocModule.Proofs.Text.Joined

namespace DocModule.Text

-- What stands before the first place of a mark in a text, and what follows the mark there.
def cutAt? (mark : List Char) : List Char → Option (List Char × List Char)
  | [] => none
  | c :: text =>
      -- the character is the first one of the mark
      if mark <+: c :: text then some ([], text.drop (mark.length - 1))
      else (cutAt? mark text).map fun (before, after) => (c :: before, after)

theorem length_of_cutAt? {mark text before after : List Char}
    (h : cutAt? mark text = some (before, after)) : after.length < text.length := by
  induction text generalizing before with
  | nil => cases h
  | cons c text ih =>
      rw [cutAt?] at h
      split at h
      · obtain ⟨-, rfl⟩ := Prod.mk.inj (Option.some.inj h)
        simp only [List.length_drop, List.length_cons]
        omega
      · obtain ⟨⟨before', after'⟩, hcut, hpair⟩ := Option.map_eq_some_iff.mp h
        obtain ⟨-, rfl⟩ := Prod.mk.inj hpair
        have hlength := ih hcut
        simp only [List.length_cons]
        omega

-- The pieces of a text between the places of a mark, which are found from left to right.
def pieces (mark text : List Char) : List (List Char) :=
  match hcut : cutAt? mark text with
  | none => [text]
  | some (before, after) =>
      have := length_of_cutAt? hcut
      before :: pieces mark after
termination_by text.length

theorem pieces_of_uncut {mark text : List Char} (h : cutAt? mark text = none) :
    pieces mark text = [text] := by
  rw [pieces]
  split
  · rfl
  · next hcut => rw [h] at hcut; cases hcut

theorem pieces_of_cut {mark text before after : List Char}
    (h : cutAt? mark text = some (before, after)) :
    pieces mark text = before :: pieces mark after := by
  rw [pieces]
  split
  · next hcut => rw [h] at hcut; cases hcut
  · next hcut =>
    obtain ⟨rfl, rfl⟩ := Prod.mk.inj (Option.some.inj (h.symm.trans hcut))
    rfl

def splitOn (mark text : String) : List String :=
  (pieces mark.toList text.toList).map String.ofList

-- What stands between the first place of one mark and the first place of another one after it.
def between? (opening closing text : String) : Option String := do
  let (_, rest) ← cutAt? opening.toList text.toList
  let (inner, _) ← cutAt? closing.toList rest
  some (String.ofList inner)

-- A text is cut at a mark in it if no place of the mark starts in what stands before.
theorem cutAt?_append {mark before after : List Char} (hmark : mark ≠ [])
    (h : ∀ last, last ≠ [] → last <:+ before → ¬ mark <+: last ++ (mark ++ after)) :
    cutAt? mark (before ++ (mark ++ after)) = some (before, after) := by
  induction before with
  | nil =>
      obtain ⟨c, others, rfl⟩ := List.exists_cons_of_ne_nil hmark
      simp [cutAt?, List.cons_prefix_cons]
  | cons d before ih =>
      have hrest := ih fun last hne hsuffix =>
        h last hne (hsuffix.trans (List.suffix_cons d before))
      have hfirst : ¬ mark <+: d :: (before ++ (mark ++ after)) :=
        h (d :: before) (List.cons_ne_nil d before) List.suffix_rfl
      rw [List.cons_append, cutAt?, if_neg hfirst, hrest]
      rfl

-- No place of a mark of two characters starts in a text without the second one in front of it.
theorem cutAt?_append_pair {c d : Char} (hne : c ≠ d) {before : List Char} (h : d ∉ before)
    (after : List Char) : cutAt? [c, d] (before ++ ([c, d] ++ after)) = some (before, after) := by
  apply cutAt?_append (List.cons_ne_nil c [d])
  rintro (_ | ⟨first, _ | ⟨second, last⟩⟩) hlast hsuffix hplace
  · exact hlast rfl
  · simp [List.cons_prefix_cons, Ne.symm hne] at hplace
  · have hsecond : second ∈ before := hsuffix.subset (by simp)
    simp only [List.cons_append, List.cons_prefix_cons] at hplace
    exact h (hplace.2.1 ▸ hsecond)

section Mark

variable {mark : List Char} {c : Char} (hmark : mark.head? = some c)
include hmark

theorem cutAt?_of_not_mem {text : List Char} (h : c ∉ text) : cutAt? mark text = none := by
  obtain ⟨others, rfl⟩ := List.head?_eq_some_iff.mp hmark
  induction text with
  | nil => rfl
  | cons d text ih =>
      have hne : c ≠ d := fun heq => h (heq ▸ List.mem_cons_self)
      have hrest := ih fun hmem => h (List.mem_cons_of_mem d hmem)
      simp [cutAt?, List.cons_prefix_cons, hne, hrest]

theorem cutAt?_append_of_not_mem {before : List Char} (h : c ∉ before) (after : List Char) :
    cutAt? mark (before ++ (mark ++ after)) = some (before, after) := by
  obtain ⟨others, rfl⟩ := List.head?_eq_some_iff.mp hmark
  apply cutAt?_append (List.cons_ne_nil c others)
  rintro (_ | ⟨first, last⟩) hlast hsuffix hplace
  · exact hlast rfl
  · have hfirst : first ∈ before := hsuffix.subset List.mem_cons_self
    exact h ((List.cons_prefix_cons.mp hplace).1 ▸ hfirst)

end Mark

-- Texts that do not have the first character of what is put between them can be read back.
theorem splitOn_joined {between : String} {c : Char} (hbetween : between.toList.head? = some c)
    {texts : List String} (hne : texts ≠ []) (htexts : ∀ text ∈ texts, c ∉ text.toList) :
    splitOn between (joined between texts) = texts := by
  rw [splitOn]
  induction texts with
  | nil => exact absurd rfl hne
  | cons text rest ih =>
      have htext : c ∉ text.toList := htexts text List.mem_cons_self
      by_cases hrest : rest = []
      · subst hrest
        rw [joined_singleton, pieces_of_uncut (cutAt?_of_not_mem hbetween htext)]
        simp
      · have hpieces := ih hrest fun other hmem => htexts other (List.mem_cons_of_mem text hmem)
        have hjoined : (joined between (text :: rest)).toList =
            text.toList ++ (between.toList ++ (joined between rest).toList) := by
          simp [joined_cons between text hrest]
        rw [hjoined, pieces_of_cut (cutAt?_append_of_not_mem hbetween htext _), List.map_cons, hpieces,
          String.ofList_toList]

end DocModule.Text
