namespace DocModule.Text

-- A text has one split into characters of a kind and a rest that does not start with one of them.
theorem takeWhile_append_eq {kind : Char → Bool} {first second : List Char}
    (hfirst : ∀ c ∈ first, kind c) (hsecond : ∀ c ∈ second.head?, kind c = false) :
    (first ++ second).takeWhile kind = first := by
  rw [List.takeWhile_append_of_pos hfirst]
  cases second with
  | nil => simp
  | cons c second => simp [hsecond c rfl]

theorem append_inj_of_kind (kind : Char → Bool) {first second first' second' : List Char}
    (hfirst : ∀ c ∈ first, kind c) (hsecond : ∀ c ∈ second.head?, kind c = false)
    (hfirst' : ∀ c ∈ first', kind c) (hsecond' : ∀ c ∈ second'.head?, kind c = false)
    (h : first ++ second = first' ++ second') : first = first' ∧ second = second' := by
  have hsame : first = first' := by
    rw [← takeWhile_append_eq hfirst hsecond, h, takeWhile_append_eq hfirst' hsecond']
  subst hsame
  exact ⟨rfl, List.append_cancel_left h⟩

-- A text has one split into a rest that does not end in a character of a kind and such characters.
theorem append_inj_of_last_kind (kind : Char → Bool) {first second first' second' : List Char}
    (hfirst : ∀ c ∈ first.getLast?, kind c = false) (hsecond : ∀ c ∈ second, kind c)
    (hfirst' : ∀ c ∈ first'.getLast?, kind c = false) (hsecond' : ∀ c ∈ second', kind c)
    (h : first ++ second = first' ++ second') : first = first' ∧ second = second' := by
  have hreverse : second.reverse ++ first.reverse = second'.reverse ++ first'.reverse := by
    rw [← List.reverse_append, ← List.reverse_append, h]
  obtain ⟨h₂, h₁⟩ := append_inj_of_kind kind (by simpa using hsecond) (by simpa using hfirst)
    (by simpa using hsecond') (by simpa using hfirst') hreverse
  exact ⟨List.reverse_inj.mp h₁, List.reverse_inj.mp h₂⟩

theorem mem_of_mem_getLast?_append {first second : List Char} (h : second ≠ []) {c : Char}
    (hc : c ∈ (first ++ second).getLast?) : c ∈ second := by
  rw [List.getLast?_append, List.getLast?_eq_some_getLast h] at hc
  exact Option.some.inj hc ▸ List.getLast_mem h

end DocModule.Text
