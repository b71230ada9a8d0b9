import DocModule.Props

namespace DocModule.Props

@[simp] theorem get?_empty (name : String) : (∅ : Props).get? name = none :=
  rfl

theorem find?_insertEntry (name text other : String) (entries : List (String × String)) :
    ((insertEntry name text entries).find? (·.1 = other)).map (·.2) =
      if name = other then some text else (entries.find? (·.1 = other)).map (·.2) := by
  induction entries with
  | nil => by_cases h : name = other <;> simp [insertEntry, h]
  | cons entry rest ih =>
      rw [insertEntry]
      by_cases h : name = other
      · subst h
        split
        · simp
        · split
          · simp
          · next hne =>
            have hne : ¬ entry.1 = name := fun heq => hne heq.symm
            simpa [hne] using ih
      · split
        · simp [h]
        · split
          · next heq =>
            have hne : ¬ entry.1 = other := fun he => h (heq.trans he)
            simp [h, hne]
          · by_cases he : entry.1 = other
            · simp [he]
            · simpa [h, he] using ih

@[simp] theorem get?_insert (props : Props) (name text other : String) :
    (props.insert name text).get? other = if name = other then some text else props.get? other :=
  find?_insertEntry name text other props.entries

@[simp] theorem get?_erase (props : Props) (name other : String) :
    (props.erase name).get? other = if name = other then none else props.get? other := by
  by_cases h : name = other
  · subst h
    simp [erase, get?, List.find?_filter]
  · simp only [erase, get?, List.find?_filter, h, if_false]
    congr 2
    funext entry
    by_cases he : entry.1 = other
    · simp [he, Ne.symm h]
    · simp [he]

theorem get?_eq_some_iff (props : Props) (name text : String) :
    props.get? name = some text ↔ (name, text) ∈ props.entries := by
  obtain ⟨entries, sorted⟩ := props
  simp only [get?]
  induction entries with
  | nil => simp
  | cons entry rest ih =>
      obtain ⟨hfirst, hrest⟩ := List.pairwise_cons.mp sorted
      by_cases h : entry.1 = name
      · subst h
        have hnot : (entry.1, text) ∉ rest := fun hmem =>
          String.lt_irrefl entry.1 (hfirst (entry.1, text) hmem)
        simp only [List.find?_cons, decide_true, Option.map_some, Option.some.injEq, List.mem_cons,
          hnot, or_false]
        constructor
        · rintro rfl; rfl
        · intro he; rw [← he]
      · have hne : (name, text) ≠ entry := fun he => h (he ▸ rfl)
        simp [h, hne, ih hrest]

-- Two property maps that give the same text for every name are equal.
theorem ext_get? {props other : Props} (h : ∀ name, props.get? name = other.get? name) :
    props = other := by
  have hmem : ∀ entry, entry ∈ props.entries ↔ entry ∈ other.entries := fun entry => by
    rw [← get?_eq_some_iff, ← get?_eq_some_iff, h]
  obtain ⟨entries, sorted⟩ := props
  obtain ⟨entries', sorted'⟩ := other
  simp only [Props.mk.injEq]
  clear h
  simp only at hmem
  induction entries generalizing entries' with
  | nil =>
      cases entries' with
      | nil => rfl
      | cons entry _ => exact absurd ((hmem entry).mpr List.mem_cons_self) List.not_mem_nil
  | cons entry rest ih =>
      cases entries' with
      | nil => exact absurd ((hmem entry).mp List.mem_cons_self) List.not_mem_nil
      | cons entry' rest' =>
          obtain ⟨hfirst, hrest⟩ := List.pairwise_cons.mp sorted
          obtain ⟨hfirst', hrest'⟩ := List.pairwise_cons.mp sorted'
          have heq : entry = entry' := by
            rcases List.mem_cons.mp ((hmem entry).mp List.mem_cons_self) with heq | hin
            · exact heq
            · rcases List.mem_cons.mp ((hmem entry').mpr List.mem_cons_self) with heq | hin'
              · exact heq.symm
              · exact absurd (String.lt_trans (hfirst _ hin') (hfirst' _ hin)) (String.lt_irrefl _)
          subst heq
          have hrests : rest = rest' := by
            refine ih hrest rest' hrest' fun other => ?_
            constructor
            · intro hin
              rcases List.mem_cons.mp ((hmem other).mp (List.mem_cons_of_mem _ hin)) with heq | hin'
              · exact absurd (hfirst _ (heq ▸ hin)) (String.lt_irrefl _)
              · exact hin'
            · intro hin
              rcases List.mem_cons.mp ((hmem other).mpr (List.mem_cons_of_mem _ hin)) with heq | hin'
              · exact absurd (hfirst' _ (heq ▸ hin)) (String.lt_irrefl _)
              · exact hin'
          rw [hrests]

theorem nodup_names (props : Props) : (props.entries.map Prod.fst).Nodup := by
  rw [List.nodup_iff_pairwise_ne, List.pairwise_map]
  refine props.sorted.imp ?_
  intro first second hlt heq
  rw [heq] at hlt
  exact String.lt_irrefl second.1 hlt

end DocModule.Props
