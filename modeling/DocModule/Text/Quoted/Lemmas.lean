import DocModule.Text.Quoted

namespace DocModule.Text.Quoted

-- The piece that a reader finds where a character was written.
def piece (c : Char) : Piece :=
  if c.toNat < 32 ∧ c ∉ ['\x08', '\t', '\n', '\x0c', '\r'] then .codeUnit c.toNat else .char c

theorem codeUnit?_control : ∀ n < 32,
    codeUnit? '0' '0' (Nat.digitChar (n / 16)) (Nat.digitChar (n % 16)) = some n := by
  decide

theorem pieces?_escape (c : Char) (rest : List Char) :
    pieces? (escape c ++ rest) =
      (pieces? rest).map fun found => (piece c :: found.1, found.2) := by
  by_cases hshort : c ∈ ['"', '\\', '\x08', '\t', '\n', '\x0c', '\r']
  · simp only [List.mem_cons, List.not_mem_nil, or_false] at hshort
    rcases hshort with rfl | rfl | rfl | rfl | rfl | rfl | rfl <;>
      (simp [escape, pieces?, short?, piece]; cases pieces? rest <;> rfl)
  · simp only [List.mem_cons, List.not_mem_nil, or_false, not_or] at hshort
    by_cases hlt : c.toNat < 32
    · simp [escape, hshort, hlt, pieces?, codeUnit?_control, piece]
      cases pieces? rest <;> rfl
    · have hp : piece c = .char c := by simp [piece, hlt]
      rw [hp]
      simp [escape, hshort, hlt, pieces?]
      cases pieces? rest <;> rfl

theorem pieces?_encode (cs rest : List Char) :
    pieces? (encode cs ++ '"' :: rest) = some (cs.map piece, rest) := by
  induction cs with
  | nil => rfl
  | cons c cs ih =>
      rw [encode, List.flatMap_cons, List.append_assoc, pieces?_escape]
      rw [encode] at ih
      simp [ih]

theorem chars?_codeUnit {n : Nat} (hleading : isLeading n = false) (htrailing : isTrailing n = false)
    (pieces : List Piece) :
    chars? (.codeUnit n :: pieces) = (chars? pieces).map (Char.ofNat n :: ·) := by
  have hstep : chars? (.codeUnit n :: pieces) =
      (chars? pieces).bind fun cs => some (Char.ofNat n :: cs) := by
    rcases pieces with _ | ⟨_ | m, pieces⟩ <;> simp [chars?, hleading, htrailing]
  rw [hstep]
  cases chars? pieces <;> rfl

theorem chars?_control {n : Nat} (h : n < 32) (pieces : List Piece) :
    chars? (.codeUnit n :: pieces) = (chars? pieces).map (Char.ofNat n :: ·) := by
  have hleading : isLeading n = false := by simp [isLeading]; omega
  have htrailing : isTrailing n = false := by simp [isTrailing]; omega
  exact chars?_codeUnit hleading htrailing pieces

theorem chars?_piece (c : Char) (pieces : List Piece) :
    chars? (piece c :: pieces) = (chars? pieces).map (c :: ·) := by
  by_cases h : c.toNat < 32 ∧ c ∉ ['\x08', '\t', '\n', '\x0c', '\r']
  · rw [piece, if_pos h, chars?_control h.1, Char.ofNat_toNat]
  · rw [piece, if_neg h, chars?]
    cases chars? pieces <;> rfl

theorem chars?_map_piece (cs : List Char) : chars? (cs.map piece) = some cs := by
  induction cs with
  | nil => rfl
  | cons c cs ih => simp [chars?_piece, ih]

-- What was written is read back, and what follows it is left alone.
theorem read?_encode (cs rest : List Char) :
    read? (encode cs ++ '"' :: rest) = some (String.ofList cs, rest) := by
  simp [read?, pieces?_encode, chars?_map_piece]

end DocModule.Text.Quoted
