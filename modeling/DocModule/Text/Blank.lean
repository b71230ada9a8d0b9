import DocModule.Text.Range

namespace DocModule.Text

-- The characters with the Unicode property White_Space.
def blankRanges : Ranges :=
  [(0x9, 0xD), (0x20, 0x20), (0x85, 0x85), (0xA0, 0xA0), (0x1680, 0x1680), (0x2000, 0x200A),
   (0x2028, 0x2029), (0x202F, 0x202F), (0x205F, 0x205F), (0x3000, 0x3000)]

def isBlank (c : Char) : Bool :=
  blankRanges.covers c

def trimStart (cs : List Char) : List Char :=
  cs.dropWhile isBlank

def trimEnd (cs : List Char) : List Char :=
  (trimStart cs.reverse).reverse

def trim (cs : List Char) : List Char :=
  trimEnd (trimStart cs)

@[simp] theorem isBlank_space : isBlank ' ' = true :=
  rfl

theorem trimStart_eq_self {text : List Char} (h : text.head?.all (!isBlank ·)) :
    trimStart text = text := by
  cases text with
  | nil => rfl
  | cons c text =>
      have hc : isBlank c = false := by simpa using h
      simp [trimStart, hc]

-- Blanks in front of a text that does not start with one are all that is trimmed.
theorem trimStart_append {blanks text : List Char} (hb : ∀ c ∈ blanks, isBlank c)
    (ht : text.head?.all (!isBlank ·)) : trimStart (blanks ++ text) = text := by
  induction blanks with
  | nil => exact trimStart_eq_self ht
  | cons c blanks ih =>
      have hc : isBlank c = true := hb c List.mem_cons_self
      have hrest := ih fun d hd => hb d (List.mem_cons_of_mem _ hd)
      simpa [trimStart, hc] using hrest

theorem head?_trimStart (text : List Char) : (trimStart text).head?.all (!isBlank ·) := by
  induction text with
  | nil => rfl
  | cons c text ih =>
      by_cases h : isBlank c
      · simpa [trimStart, h] using ih
      · simp [trimStart, h]

theorem trim_eq_self {text : List Char} (hhead : text.head?.all (!isBlank ·))
    (hlast : text.getLast?.all (!isBlank ·)) : trim text = text := by
  rw [trim, trimEnd, trimStart_eq_self hhead, trimStart_eq_self (by rwa [List.head?_reverse]),
    List.reverse_reverse]

end DocModule.Text
