import DocModule.Proofs.Json.RoundTrip

namespace DocModule.Text.Quoted

-- The characters that have a letter or a mark of their own after a backslash.
def shortEscapes : List (Char × Char) :=
  [('"', '"'), ('\\', '\\'), ('b', '\x08'), ('t', '\t'), ('n', '\n'), ('f', '\x0c'), ('r', '\r')]

def hexEscape (n : Nat) : List Char :=
  ['\\', 'u', '0', '0', Nat.digitChar (n / 16), Nat.digitChar (n % 16)]

theorem escape_of_short : ∀ short ∈ shortEscapes, escape short.2 = ['\\', short.1] := by
  decide

theorem escape_of_plain {c : Char} (hlow : 32 ≤ c.toNat) (hquote : c ≠ '"') (hslash : c ≠ '\\') :
    escape c = [c] := by
  have hcontrol : ∀ control : Char, control.toNat < 32 → c ≠ control := by
    rintro control hlt rfl
    omega
  simp [escape, hquote, hslash, Nat.not_lt.mpr hlow, hcontrol '\x08' (by decide),
    hcontrol '\t' (by decide), hcontrol '\n' (by decide), hcontrol '\x0c' (by decide),
    hcontrol '\r' (by decide)]

-- The three ways in which a character is written.
theorem escape_cases (c : Char) :
    (∃ label, (label, c) ∈ shortEscapes ∧ escape c = ['\\', label]) ∨
    (c.toNat < 32 ∧ escape c = hexEscape c.toNat) ∨
    (32 ≤ c.toNat ∧ c ≠ '"' ∧ c ≠ '\\' ∧ escape c = [c]) := by
  by_cases hshort : c ∈ shortEscapes.map Prod.snd
  · obtain ⟨⟨label, found⟩, hmem, rfl⟩ := List.mem_map.mp hshort
    exact .inl ⟨label, hmem, escape_of_short _ hmem⟩
  · simp only [shortEscapes, List.map_cons, List.map_nil, List.mem_cons, List.not_mem_nil, or_false,
      not_or] at hshort
    by_cases hcontrol : c.toNat < 32
    · exact .inr (.inl ⟨hcontrol, by simp [escape, hshort, hcontrol, hexEscape]⟩)
    · have hlow : 32 ≤ c.toNat := Nat.le_of_not_lt hcontrol
      exact .inr (.inr ⟨hlow, hshort.1, hshort.2.1, escape_of_plain hlow hshort.1 hshort.2.1⟩)

-- A text with a character in front of it that was read first.
def prepend (c : Char) (found : String × List Char) : String × List Char :=
  (String.ofList (c :: found.1.toList), found.2)

-- A reader of string tokens, from behind the opening mark on, by the rules that JSON and scripts
-- have in common.
structure ReadsTokens (read : List Char → Option (String × List Char)) : Prop where
  close : ∀ rest, read ('"' :: rest) = some ("", rest)
  plain : ∀ c rest, 32 ≤ c.toNat → c ≠ '"' → c ≠ '\\' →
    read (c :: rest) = (read rest).map (prepend c)
  short : ∀ label c rest, (label, c) ∈ shortEscapes →
    read ('\\' :: label :: rest) = (read rest).map (prepend c)
  hex : ∀ c rest, c.toNat < 32 → read (hexEscape c.toNat ++ rest) = (read rest).map (prepend c)

theorem ReadsTokens.read_encode {read : List Char → Option (String × List Char)}
    (h : ReadsTokens read) (cs rest : List Char) :
    read (encode cs ++ '"' :: rest) = some (String.ofList cs, rest) := by
  induction cs with
  | nil => exact h.close rest
  | cons c cs ih =>
      have hstep : read (escape c ++ (encode cs ++ '"' :: rest)) =
          (read (encode cs ++ '"' :: rest)).map (prepend c) := by
        rcases escape_cases c with
          ⟨label, hmem, hc⟩ | ⟨hcontrol, hc⟩ | ⟨hlow, hquote, hslash, hc⟩ <;> rw [hc]
        · exact h.short label c _ hmem
        · exact h.hex c _ hcontrol
        · exact h.plain c _ hlow hquote hslash
      rw [encode, List.flatMap_cons, List.append_assoc]
      rw [encode] at hstep ih
      simp [hstep, ih, prepend]

theorem read?_of_pieces? {text rest : List Char} {first : Piece} {c : Char}
    (hpieces : pieces? text = (pieces? rest).map fun found => (first :: found.1, found.2))
    (hchars : ∀ pieces, chars? (first :: pieces) = (chars? pieces).map (c :: ·)) :
    read? text = (read? rest).map (prepend c) := by
  rw [read?, read?, hpieces]
  cases pieces? rest with
  | none => rfl
  | some found =>
      simp only [Option.map_some, Option.bind_eq_bind, Option.bind_some, hchars]
      cases chars? found.1 <;> simp [prepend]

theorem read?_escape (c : Char) (rest : List Char) :
    read? (escape c ++ rest) = (read? rest).map (prepend c) :=
  read?_of_pieces? (pieces?_escape c rest) (chars?_piece c)

theorem pieces?_hexEscape {n : Nat} (h : n < 32) (rest : List Char) :
    pieces? (hexEscape n ++ rest) =
      (pieces? rest).map fun found => (.codeUnit n :: found.1, found.2) := by
  simp only [hexEscape, List.cons_append, List.nil_append, pieces?, codeUnit?_control n h]
  cases pieces? rest <;> rfl

theorem readsTokens_read? : ReadsTokens read? where
  close _ := rfl
  plain c rest hlow hquote hslash := by
    have hread := read?_escape c rest
    rwa [escape_of_plain hlow hquote hslash] at hread
  short label c rest hmem := by
    have hread := read?_escape c rest
    rwa [escape_of_short _ hmem] at hread
  hex c rest hcontrol := by
    apply read?_of_pieces? (pieces?_hexEscape hcontrol rest)
    intro pieces
    rw [chars?_control hcontrol, Char.ofNat_toNat]

-- How many backslashes a text ends in. What follows an odd number of them is escaped.
def trailingSlashes (text : List Char) : Nat :=
  (text.reverse.takeWhile (· = '\\')).length

theorem trailingSlashes_append (text others : List Char) :
    trailingSlashes (text ++ others) =
      if trailingSlashes others = others.length then others.length + trailingSlashes text
      else trailingSlashes others := by
  have hreverse : trailingSlashes others = others.length ↔
      (others.reverse.takeWhile (· = '\\')).length = others.reverse.length := by
    rw [trailingSlashes, List.length_reverse]
  rw [trailingSlashes, List.reverse_append, List.takeWhile_append]
  by_cases h : trailingSlashes others = others.length
  · rw [if_pos h, if_pos (hreverse.mp h), List.length_append, List.length_reverse]
    rfl
  · rw [if_neg h, if_neg (mt hreverse.mpr h)]
    rfl

theorem trailingSlashes_append_of_even {text : List Char} (h : trailingSlashes text % 2 = 0)
    (others : List Char) : trailingSlashes (text ++ others) % 2 = trailingSlashes others % 2 := by
  rw [trailingSlashes_append]
  split <;> omega

theorem trailingSlashes_short :
    ∀ short ∈ shortEscapes, trailingSlashes ['\\', short.1] % 2 = 0 := by
  decide

theorem trailingSlashes_hexEscape : ∀ n < 32, trailingSlashes (hexEscape n) % 2 = 0 := by
  decide

-- A backslash never escapes what is written for the next character.
theorem trailingSlashes_escape (c : Char) : trailingSlashes (escape c) % 2 = 0 := by
  rcases escape_cases c with ⟨label, hmem, hc⟩ | ⟨hcontrol, hc⟩ | ⟨-, -, hslash, hc⟩ <;> rw [hc]
  · exact trailingSlashes_short _ hmem
  · exact trailingSlashes_hexEscape _ hcontrol
  · simp [trailingSlashes, hslash]

theorem quote_notMem_hexEscape : ∀ n < 32, '"' ∉ hexEscape n := by
  decide

-- The only quotation mark that is written for a character is the one after its backslash.
theorem eq_slash_of_quote {c : Char} {before after : List Char}
    (h : escape c = before ++ '"' :: after) : before = ['\\'] := by
  have hmem : '"' ∈ escape c := h ▸ List.mem_append_right before List.mem_cons_self
  rcases escape_cases c with
    ⟨label, -, hc⟩ | ⟨hcontrol, hc⟩ | ⟨-, hquote, -, hc⟩ <;> rw [hc] at h hmem
  · rcases before with _ | ⟨first, _ | ⟨second, before⟩⟩
    · simp at h
    · rw [(List.cons.inj h).1]
    · simp at h
  · exact absurd hmem (quote_notMem_hexEscape _ hcontrol)
  · exact absurd (List.mem_singleton.mp hmem).symm hquote

-- Every quotation mark inside a literal is escaped. It stands in what is written for the first
-- character, or else what stands before it in the rest of the literal decides.
theorem trailingSlashes_of_quote {cs before after : List Char}
    (h : encode cs = before ++ '"' :: after) : trailingSlashes before % 2 = 1 := by
  induction cs generalizing before with
  | nil => simp [encode] at h
  | cons c cs ih =>
      have hsplit : escape c ++ encode cs = before ++ '"' :: after := h
      rcases List.append_eq_append_iff.mp hsplit with
        ⟨others, rfl, hothers⟩ | ⟨others, hothers, hafter⟩
      · rw [trailingSlashes_append_of_even (trailingSlashes_escape c)]
        exact ih hothers
      · cases others with
        | nil =>
            have hempty : trailingSlashes [] % 2 = 1 := ih hafter.symm
            cases hempty
        | cons first others =>
            obtain ⟨rfl, -⟩ := List.cons.inj hafter
            rw [eq_slash_of_quote hothers]
            rfl

theorem all_printable_short : ∀ short ∈ shortEscapes, ['\\', short.1].all (32 ≤ ·.toNat) := by
  decide

theorem all_printable_hexEscape : ∀ n < 32, (hexEscape n).all (32 ≤ ·.toNat) := by
  decide

theorem le_toNat_of_mem_literal {s : String} {c : Char} (h : c ∈ (literal s).toList) :
    32 ≤ c.toNat := by
  have hescape : ∀ d, c ∈ escape d → 32 ≤ c.toNat := by
    intro d hd
    rcases escape_cases d with
      ⟨label, hmem, hc⟩ | ⟨hcontrol, hc⟩ | ⟨hlow, -, -, hc⟩ <;> rw [hc] at hd
    · exact of_decide_eq_true (List.all_eq_true.mp (all_printable_short _ hmem) c hd)
    · exact of_decide_eq_true (List.all_eq_true.mp (all_printable_hexEscape _ hcontrol) c hd)
    · rwa [List.mem_singleton.mp hd]
  simp only [literal, String.toList_ofList, List.mem_cons, List.mem_append, List.not_mem_nil,
    or_false] at h
  rcases h with rfl | h | rfl
  · decide
  · obtain ⟨d, -, hd⟩ := List.mem_flatMap.mp h
    exact hescape d hd
  · decide

-- A string token at the front of a text, and what follows it.
def token? (read : List Char → Option (String × List Char)) :
    List Char → Option (String × List Char)
  | '"' :: rest => read rest
  | _ => none

theorem ReadsTokens.token?_literal {read : List Char → Option (String × List Char)}
    (h : ReadsTokens read) (s : String) (rest : List Char) :
    token? read ((literal s).toList ++ rest) = some (s, rest) := by
  rw [Json.toList_literal, token?, h.read_encode, String.ofList_toList]

-- Where two literals start a text, they are the same, with the same text after them.
theorem literal_append_inj {s t : String} {rest others : List Char}
    (h : (literal s).toList ++ rest = (literal t).toList ++ others) : s = t ∧ rest = others := by
  have hread := readsTokens_read?.token?_literal s rest
  rw [h, readsTokens_read?.token?_literal] at hread
  obtain ⟨ht, hothers⟩ := Prod.mk.inj (Option.some.inj hread)
  exact ⟨ht.symm, hothers.symm⟩

theorem literal_prefix_iff {s t : String} : (literal s).toList <+: (literal t).toList ↔ s = t := by
  constructor
  · rintro ⟨rest, hrest⟩
    rw [← List.append_nil (literal t).toList] at hrest
    exact (literal_append_inj hrest).1
  · rintro rfl
    exact List.prefix_rfl

-- A literal is read as the text that it stands for, by JSON's reader and by every other one that
-- keeps to the common rules, and what follows it is left alone. Nothing in it can end it early or
-- break its line, it is a JSON text of its own, and no other literal starts with it.
theorem literal_self_delimiting (s : String) :
    (∀ rest, token? read? ((literal s).toList ++ rest) = some (s, rest)) ∧
    (∀ read, ReadsTokens read → ∀ rest, token? read ((literal s).toList ++ rest) = some (s, rest)) ∧
    (∀ c ∈ (literal s).toList, 32 ≤ c.toNat) ∧
    ((literal s).toList = '"' :: encode s.toList ++ ['"'] ∧
      ∀ before after, encode s.toList = before ++ '"' :: after → trailingSlashes before % 2 = 1) ∧
    Json.parse? (literal s) = some (.string s) ∧
    ∀ t, (literal s).toList <+: (literal t).toList ↔ s = t := by
  have hparse : Json.parse? (Json.write (.string s)) = some (.string s) :=
    Json.parse?_write (.string s)
  rw [Json.write] at hparse
  have hbody : (literal s).toList = '"' :: encode s.toList ++ ['"'] := by simp [literal]
  exact ⟨readsTokens_read?.token?_literal s, fun _ h => h.token?_literal s,
    fun _ => le_toNat_of_mem_literal, ⟨hbody, fun _ _ => trailingSlashes_of_quote⟩, hparse,
    fun _ => literal_prefix_iff⟩

-- A text that ends in a backslash and a quotation mark, with more of them after its literal.
theorem literal_self_delimiting_hostile :
    let s := "\x07\\\""
    literal s = "\"\\u0007\\\\\\\"\"" ∧
    (ReadsTokens read? ∧
      token? read? ((literal s).toList ++ "\"\\".toList) = some (s, "\"\\".toList)) ∧
    (encode s.toList = "\\u0007\\\\\\".toList ++ '"' :: [] ∧
      trailingSlashes "\\u0007\\\\\\".toList % 2 = 1) ∧
    '"' ∈ (literal s).toList ∧ 32 ≤ '"'.toNat := by
  intro s
  obtain ⟨-, hreaders, hlow, ⟨-, hescaped⟩, -⟩ := literal_self_delimiting s
  have hquote : '"' ∈ (literal s).toList := by decide
  have hsplit : encode s.toList = "\\u0007\\\\\\".toList ++ '"' :: [] := by decide
  exact ⟨by decide, ⟨readsTokens_read?, hreaders read? readsTokens_read? _⟩,
    ⟨hsplit, hescaped _ _ hsplit⟩, hquote, hlow _ hquote⟩

end DocModule.Text.Quoted
