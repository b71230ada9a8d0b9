import DocModule.Export

namespace DocModule.Export

open Text

theorem after?_eq_some_iff {word text rest : List Char} :
    after? word text = some rest ↔ text = word ++ rest := by
  induction word generalizing text with
  | nil => simp [after?]
  | cons w word ih =>
      cases text with
      | nil => simp [after?]
      | cons c text =>
          by_cases h : w = c
          · subst h
            simp [after?, ih]
          · simp [after?, h, Ne.symm h]

theorem afterWord?_eq_some_iff {word : String} {text rest : List Char} :
    afterWord? word text = some rest ↔ text = word.toList ++ rest :=
  after?_eq_some_iff

-- One or more blanks are read as far as they go.
theorem afterBlanks?_eq_some_iff {text rest : List Char} :
    afterBlanks? text = some rest ↔
      ∃ blanks, blanks ≠ [] ∧ (∀ c ∈ blanks, isBlank c) ∧ text = blanks ++ rest ∧
        rest.head?.all (!isBlank ·) := by
  cases text with
  | nil =>
      constructor
      · intro h
        exact nomatch h
      · rintro ⟨blanks, hne, _, heq, _⟩
        exact absurd (List.append_eq_nil_iff.mp heq.symm).1 hne
  | cons c text =>
      constructor
      · intro h
        by_cases hc : isBlank c
        · simp only [afterBlanks?, hc, if_true, Option.some.injEq] at h
          refine ⟨c :: text.takeWhile isBlank, by simp, fun d hd => ?_, ?_, ?_⟩
          · rcases List.mem_cons.mp hd with rfl | hd
            · exact hc
            · exact List.all_eq_true.mp List.all_takeWhile d hd
          · rw [← h, trimStart, List.cons_append, List.takeWhile_append_dropWhile]
          · exact h ▸ head?_trimStart text
        · simp [afterBlanks?, hc] at h
      · rintro ⟨blanks, hne, hb, heq, hrest⟩
        cases blanks with
        | nil => exact absurd rfl hne
        | cons d blanks =>
            obtain ⟨rfl, rfl⟩ := List.cons.inj heq
            have hc : isBlank c = true := hb c List.mem_cons_self
            simp only [afterBlanks?, hc, if_true, Option.some.injEq]
            exact trimStart_append (fun d hd => hb d (List.mem_cons_of_mem _ hd)) hrest

-- What a statement can be. The statement that is passed on is always the source as it stands.
theorem classify_cases (src : String) :
    (∃ expression, classify src = .default expression) ∨ (∃ form, classify src = .rejected form) ∨
      (∃ name, classify src = .named name src) ∨ classify src = .other src := by
  rw [classify]
  split
  · exact .inl ⟨_, rfl⟩
  · split
    · exact .inr (.inl ⟨_, rfl⟩)
    · split
      · exact .inr (.inr (.inl ⟨_, rfl⟩))
      · exact .inr (.inr (.inr rfl))

end DocModule.Export
