import DocModule.Proofs.Text.Literal

namespace DocModule.Text.Quoted

-- A hexadecimal digit in either case.
def IsHexDigit (value : Nat) (c : Char) : Prop :=
  value < 16 ∧ (c = Nat.digitChar value ∨ c = (Nat.digitChar value).toUpper)

instance (value : Nat) (c : Char) : Decidable (IsHexDigit value c) :=
  inferInstanceAs (Decidable (_ ∧ _))

-- The ways to write one piece of a string. A character may stand for itself, and every code unit has
-- an escape, also the surrogates.
inductive IsPiece : Piece → List Char → Prop
  | plain {c : Char} : 32 ≤ c.toNat → c ≠ '"' → c ≠ '\\' → IsPiece (.char c) [c]
  | short {label c : Char} : (label, c) ∈ ('/', '/') :: shortEscapes → IsPiece (.char c) ['\\', label]
  | codeUnit {n₁ n₂ n₃ n₄ : Nat} {a b c d : Char} :
      IsHexDigit n₁ a → IsHexDigit n₂ b → IsHexDigit n₃ c → IsHexDigit n₄ d →
      IsPiece (.codeUnit (((n₁ * 16 + n₂) * 16 + n₃) * 16 + n₄)) ['\\', 'u', a, b, c, d]

-- What stands between the marks of a string, piece after piece.
inductive IsString : List Piece → List Char → Prop
  | nil : IsString [] []
  | cons {piece : Piece} {pieces : List Piece} {cs rest : List Char} :
      IsPiece piece cs → IsString pieces rest → IsString (piece :: pieces) (cs ++ rest)

-- The characters that pieces stand for. A code unit is a character of its own or, with the next one,
-- a pair of surrogates, so that a surrogate on its own stands for nothing.
inductive Spells : List Piece → List Char → Prop
  | nil : Spells [] []
  | char {c : Char} {pieces : List Piece} {cs : List Char} :
      Spells pieces cs → Spells (.char c :: pieces) (c :: cs)
  | codeUnit {c : Char} {pieces : List Piece} {cs : List Char} :
      Spells pieces cs → Spells (.codeUnit c.toNat :: pieces) (c :: cs)
  | pair {high low : Nat} {c : Char} {pieces : List Piece} {cs : List Char} :
      high < 0x400 → low < 0x400 → c.toNat = 0x10000 + high * 0x400 + low → Spells pieces cs →
      Spells (.codeUnit (0xD800 + high) :: .codeUnit (0xDC00 + low) :: pieces) (c :: cs)

-- The text that pieces stand for, if they stand for one.
def Denotes (pieces : List Piece) (text? : Option String) : Prop :=
  ∀ text, text? = some text ↔ Spells pieces text.toList

theorem hexValue?_digitChar : ∀ value < 16, hexValue? (Nat.digitChar value) = some value ∧
    hexValue? (Nat.digitChar value).toUpper = some value := by
  decide

theorem hexValue?_of_isHexDigit {value : Nat} {c : Char} (h : IsHexDigit value c) :
    hexValue? c = some value := by
  obtain ⟨hlt, rfl | rfl⟩ := h
  · exact (hexValue?_digitChar value hlt).1
  · exact (hexValue?_digitChar value hlt).2

theorem short?_eq_some : ∀ short ∈ ('/', '/') :: shortEscapes,
    short.1 ≠ 'u' ∧ short? short.1 = some short.2 := by
  decide

def isPlain (c : Char) : Bool :=
  32 ≤ c.toNat && c != '"' && c != '\\'

theorem isString_of_plain {cs : List Char} (h : cs.all isPlain) : IsString (cs.map .char) cs := by
  induction cs with
  | nil => exact .nil
  | cons c cs ih =>
      rw [List.all_cons, Bool.and_eq_true] at h
      obtain ⟨⟨hlow, hquote⟩, hslash⟩ := by simpa [isPlain] using h.1
      exact .cons (.plain hlow hquote hslash) (ih h.2)

-- One step of the reader takes one piece off, however it is written.
theorem pieces?_append {piece : Piece} {cs : List Char} (h : IsPiece piece cs) (rest : List Char) :
    pieces? (cs ++ rest) = (pieces? rest).map fun found => (piece :: found.1, found.2) := by
  cases h with
  | @plain c hlow hquote hslash =>
      have hcontrol : ¬ c.toNat < 32 := by omega
      simp [pieces?, hslash, hcontrol]
      cases pieces? rest <;> rfl
  | @short label c hmem =>
      obtain ⟨hu, hshort⟩ := short?_eq_some _ hmem
      simp only at hu hshort
      simp [pieces?, hu, hshort]
      cases pieces? rest <;> rfl
  | codeUnit ha hb hc hd =>
      simp [pieces?, codeUnit?, hexValue?_of_isHexDigit ha, hexValue?_of_isHexDigit hb,
        hexValue?_of_isHexDigit hc, hexValue?_of_isHexDigit hd]
      cases pieces? rest <;> rfl

theorem pieces?_of_isString {pieces : List Piece} {cs : List Char} (h : IsString pieces cs)
    (rest : List Char) : pieces? (cs ++ '"' :: rest) = some (pieces, rest) := by
  induction h with
  | nil => rfl
  | cons hpiece _ ih => rw [List.append_assoc, pieces?_append hpiece, ih, Option.map_some]

theorem codeUnit_lt_of_isString {pieces : List Piece} {cs : List Char} (h : IsString pieces cs) :
    ∀ n, .codeUnit n ∈ pieces → n < 0x10000 := by
  induction h with
  | nil => simp
  | @cons piece _ _ _ hpiece _ ih =>
      intro n hmem
      rcases List.mem_cons.mp hmem with rfl | hmem
      · cases hpiece with
        | codeUnit ha hb hc hd =>
            have := ha.1
            have := hb.1
            have := hc.1
            have := hd.1
            omega
      · exact ih n hmem

section Surrogates

variable {n m : Nat} {pieces : List Piece} {cs : List Char}

theorem isLeading_iff : isLeading n = true ↔ ∃ high < 0x400, n = 0xD800 + high := by
  simp only [isLeading, Bool.and_eq_true, decide_eq_true_eq]
  exact ⟨fun h => ⟨n - 0xD800, by omega, by omega⟩, by rintro ⟨high, hlt, rfl⟩; omega⟩

theorem isTrailing_iff : isTrailing n = true ↔ ∃ low < 0x400, n = 0xDC00 + low := by
  simp only [isTrailing, Bool.and_eq_true, decide_eq_true_eq]
  exact ⟨fun h => ⟨n - 0xDC00, by omega, by omega⟩, by rintro ⟨low, hlt, rfl⟩; omega⟩

-- A character is never a surrogate.
theorem not_isSurrogate (c : Char) : isLeading c.toNat = false ∧ isTrailing c.toNat = false := by
  have hvalid : c.toNat < 0xD800 ∨ 0xDFFF < c.toNat ∧ c.toNat < 0x110000 := c.valid
  simp only [isLeading, isTrailing, Bool.and_eq_false_iff, decide_eq_false_iff_not]
  omega

theorem toNat_ofNat_of_valid (h : n < 0xD800 ∨ 0xDFFF < n ∧ n < 0x110000) :
    (Char.ofNat n).toNat = n := by
  rw [Char.ofNat, dif_pos h]
  rfl

theorem Spells.codeUnit_ofNat (hlt : n < 0x10000) (hleading : ¬ isLeading n) (htrailing : ¬ isTrailing n)
    (h : Spells pieces cs) : Spells (.codeUnit n :: pieces) (Char.ofNat n :: cs) := by
  have hn : (Char.ofNat n).toNat = n := by
    simp only [isLeading, isTrailing, Bool.and_eq_true, decide_eq_true_eq] at hleading htrailing
    exact toNat_ofNat_of_valid (by omega)
  have hspells := Spells.codeUnit (c := Char.ofNat n) h
  rwa [hn] at hspells

theorem Spells.pair_ofNat (hleading : isLeading n) (htrailing : isTrailing m) (h : Spells pieces cs) :
    Spells (.codeUnit n :: .codeUnit m :: pieces)
      (Char.ofNat (0x10000 + (n - 0xD800) * 0x400 + (m - 0xDC00)) :: cs) := by
  obtain ⟨high, hhigh, rfl⟩ := isLeading_iff.mp hleading
  obtain ⟨low, hlow, rfl⟩ := isTrailing_iff.mp htrailing
  rw [Nat.add_sub_cancel_left, Nat.add_sub_cancel_left]
  exact .pair hhigh hlow (toNat_ofNat_of_valid (by omega)) h

end Surrogates

theorem chars?_of_spells {pieces : List Piece} {cs : List Char} (h : Spells pieces cs) :
    chars? pieces = some cs := by
  induction h with
  | nil => rfl
  | char _ ih => simp [chars?, ih]
  | @codeUnit c _ _ _ ih =>
      obtain ⟨hleading, htrailing⟩ := not_isSurrogate c
      rw [chars?_codeUnit hleading htrailing, ih, Char.ofNat_toNat, Option.map_some]
  | @pair high low c _ _ hhigh hlow hc _ ih =>
      have hleading : isLeading (0xD800 + high) = true := isLeading_iff.mpr ⟨high, hhigh, rfl⟩
      have htrailing : isTrailing (0xDC00 + low) = true := isTrailing_iff.mpr ⟨low, hlow, rfl⟩
      have hchar : Char.ofNat (0x10000 + high * 0x400 + low) = c := by rw [← hc, Char.ofNat_toNat]
      simp [chars?, hleading, htrailing, ih, hchar]

theorem spells_of_chars? {pieces : List Piece} {cs : List Char}
    (hunits : ∀ n, .codeUnit n ∈ pieces → n < 0x10000) (h : chars? pieces = some cs) :
    Spells pieces cs := by
  fun_induction chars? pieces generalizing cs with
  | case1 =>
      obtain rfl := Option.some.inj h
      exact .nil
  | case2 c pieces ih =>
      obtain ⟨others, hothers, hcs⟩ := Option.bind_eq_some_iff.mp h
      obtain rfl := Option.some.inj hcs
      exact .char (ih (fun n hmem => hunits n (List.mem_cons_of_mem _ hmem)) hothers)
  | case3 n m pieces hleading htrailing ih =>
      obtain ⟨others, hothers, hcs⟩ := Option.bind_eq_some_iff.mp h
      obtain rfl := Option.some.inj hcs
      have hrest : ∀ n, .codeUnit n ∈ pieces → n < 0x10000 := fun n hmem =>
        hunits n (List.mem_cons_of_mem _ (List.mem_cons_of_mem _ hmem))
      exact .pair_ofNat hleading htrailing (ih hrest hothers)
  | case4 | case5 | case7 => cases h
  | case6 n m pieces hleading htrailing ih =>
      obtain ⟨others, hothers, hcs⟩ := Option.bind_eq_some_iff.mp h
      obtain rfl := Option.some.inj hcs
      exact .codeUnit_ofNat (hunits n List.mem_cons_self) hleading htrailing
        (ih (fun n hmem => hunits n (List.mem_cons_of_mem _ hmem)) hothers)
  | case8 n pieces _ hsurrogate ih =>
      obtain ⟨others, hothers, hcs⟩ := Option.bind_eq_some_iff.mp h
      obtain rfl := Option.some.inj hcs
      rw [Bool.or_eq_true, not_or] at hsurrogate
      exact .codeUnit_ofNat (hunits n List.mem_cons_self) hsurrogate.1 hsurrogate.2
        (ih (fun n hmem => hunits n (List.mem_cons_of_mem _ hmem)) hothers)

theorem Denotes.unique {pieces : List Piece} {text? other? : Option String} (h : Denotes pieces text?)
    (hother : Denotes pieces other?) : text? = other? :=
  Option.ext fun text => (h text).trans (hother text).symm

theorem denotes_chars? {pieces : List Piece} {cs : List Char} (h : IsString pieces cs) :
    Denotes pieces ((chars? pieces).map String.ofList) := by
  intro text
  rw [Option.map_eq_some_iff]
  constructor
  · rintro ⟨others, hothers, rfl⟩
    rw [String.toList_ofList]
    exact spells_of_chars? (codeUnit_lt_of_isString h) hothers
  · intro hspells
    exact ⟨text.toList, chars?_of_spells hspells, String.ofList_toList⟩

-- A string is read as the text that it stands for. Where it stands for none, there is no answer.
theorem read?_of_isString {pieces : List Piece} {cs : List Char} {text? : Option String}
    (h : IsString pieces cs) (htext : Denotes pieces text?) (rest : List Char) :
    read? (cs ++ '"' :: rest) = text?.map (·, rest) := by
  rw [read?, pieces?_of_isString h, htext.unique (denotes_chars? h)]
  cases hfound : chars? pieces <;> simp [hfound]

end DocModule.Text.Quoted
