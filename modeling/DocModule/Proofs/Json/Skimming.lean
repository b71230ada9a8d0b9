import DocModule.Json.Skim
import DocModule.Proofs.Json.Grammar
import DocModule.Proofs.Text.Split

namespace DocModule.Json

open Text

-- The boolean that a value is, if it is one.
def boolOf? (cs : List Char) : Option Bool :=
  [true, false].find? fun value => cs = (boolText value).toList

theorem boolOf?_eq_some_iff {cs : List Char} {value : Bool} :
    boolOf? cs = some value ↔ cs = (boolText value).toList := by
  constructor
  · intro h
    simpa using List.find?_some h
  · rintro rfl
    cases value <;> decide

theorem boolOf?_cons {c : Char} (ht : c ≠ 't') (hf : c ≠ 'f') (cs : List Char) :
    boolOf? (c :: cs) = none := by
  simp [boolOf?, boolText, ht, hf]

section Space

variable {gap : List Char} (h : Spaces gap)
include h

theorem skipSpace_append (cs : List Char) : skipSpace (gap ++ cs) = skipSpace cs := by
  have hspace : ∀ c ∈ gap, isSpace c := by
    intro c hc
    have hmem := h c hc
    simp only [List.mem_cons, List.not_mem_nil, or_false] at hmem
    rcases hmem with rfl | rfl | rfl | rfl <;> rfl
  exact List.dropWhile_append_of_pos hspace

theorem skipSpace_append_cons {c : Char} (hc : isSpace c = false) (cs : List Char) :
    skipSpace (gap ++ c :: cs) = c :: cs := by
  rw [skipSpace_append h, skipSpace_cons hc]

end Space

namespace Skim

-- What follows a number does not go on with it.
def EndsNumber (rest : List Char) : Prop :=
  ∀ c ∈ rest.head?, c.isDigit = false ∧ c ∉ ['.', 'e', 'E']

theorem ne_of_isDigit {c other : Char} (hc : c.isDigit) (hother : other.isDigit = false) :
    c ≠ other := by
  rintro rfl
  rw [hother] at hc
  cases hc

theorem exists_first_digit {cs : List Char} (h : IsDigits cs) :
    ∃ first others, cs = first :: others ∧ first.isDigit := by
  obtain ⟨first, others, rfl⟩ := List.exists_cons_of_ne_nil h.1
  exact ⟨first, others, rfl, h.2 first List.mem_cons_self⟩

theorem digits1?_append {digits rest : List Char} (h : IsDigits digits)
    (hrest : ∀ c ∈ rest.head?, c.isDigit = false) : digits1? (digits ++ rest) = some rest := by
  have htake : (digits ++ rest).takeWhile Char.isDigit = digits := takeWhile_append_eq h.2 hrest
  have hdrop : (digits ++ rest).dropWhile Char.isDigit = rest := by
    have hsplit := List.takeWhile_append_dropWhile (p := Char.isDigit) (l := digits ++ rest)
    rw [htake] at hsplit
    exact List.append_cancel_left hsplit
  rw [digits1?, htake, hdrop, if_neg (by simpa using h.1)]

theorem exponent?_append {exponent rest : List Char} (h : IsExponent exponent) (hrest : EndsNumber rest) :
    exponent? (exponent ++ rest) = some rest := by
  rcases h with rfl | ⟨mark, hmark, sign, hsign, digits, hdigits, rfl⟩
  · cases rest with
    | nil => rfl
    | cons c rest =>
        obtain ⟨-, hc⟩ := hrest c rfl
        simp only [List.mem_cons, List.not_mem_nil, or_false, not_or] at hc
        simp [exponent?, hc]
  · have hread := digits1?_append hdigits fun c hc => (hrest c hc).1
    obtain ⟨first, others, rfl, hfirst⟩ := exists_first_digit hdigits
    have hplus : first ≠ '+' := ne_of_isDigit hfirst rfl
    have hminus : first ≠ '-' := ne_of_isDigit hfirst rfl
    simp only [List.mem_cons, List.not_mem_nil, or_false] at hmark hsign
    rcases hmark with rfl | rfl <;> rcases hsign with rfl | rfl | rfl <;>
      simpa [exponent?, hplus, hminus] using hread

theorem head?_exponent_append {exponent rest : List Char} (h : IsExponent exponent)
    (hrest : EndsNumber rest) : ∀ c ∈ (exponent ++ rest).head?, c.isDigit = false ∧ c ≠ '.' := by
  intro c hc
  rcases h with rfl | ⟨mark, hmark, sign, -, digits, -, rfl⟩
  · obtain ⟨hdigit, hmem⟩ := hrest c hc
    exact ⟨hdigit, fun hpoint => hmem (hpoint ▸ List.mem_cons_self)⟩
  · obtain rfl := Option.some.inj hc
    simp only [List.mem_cons, List.not_mem_nil, or_false] at hmark
    rcases hmark with rfl | rfl <;> decide

-- What is left of a number after the digits before the point.
def afterWhole? (cs : List Char) : Option (List Char) :=
  match cs with
  | '.' :: rest => do exponent? (← digits1? rest)
  | _ => exponent? cs

theorem afterWhole?_append {fraction exponent rest : List Char} (hfraction : IsFraction fraction)
    (hexponent : IsExponent exponent) (hrest : EndsNumber rest) :
    afterWhole? (fraction ++ (exponent ++ rest)) = some rest := by
  have hread := exponent?_append hexponent hrest
  have hends := head?_exponent_append hexponent hrest
  rcases hfraction with rfl | ⟨digits, hdigits, rfl⟩
  · rw [List.nil_append]
    generalize exponent ++ rest = cs at hread hends
    cases cs with
    | nil => exact hread
    | cons c cs => simpa [afterWhole?, (hends c rfl).2] using hread
  · have hdigits := digits1?_append hdigits fun c hc => (hends c hc).1
    simp [afterWhole?, hdigits, hread]

theorem number?_append {whole rest : List Char} (h : IsWhole whole)
    (hrest : ∀ c ∈ rest.head?, c.isDigit = false) : number? (whole ++ rest) = afterWhole? rest := by
  have hread := digits1?_append h.1 hrest
  obtain ⟨first, others, rfl, -⟩ := exists_first_digit h.1
  by_cases hzero : first = '0'
  · subst hzero
    obtain rfl := (List.cons.inj (h.2 rfl)).2
    have hany : rest.head?.any Char.isDigit = false := by
      cases hhead : rest.head? with
      | none => rfl
      | some c => exact hrest c hhead
    simp [number?, hany]
    rfl
  · rw [List.cons_append] at hread ⊢
    simp [number?, hzero, hread]
    rfl

theorem number?_of_isNumber {whole fraction exponent rest : List Char} (hwhole : IsWhole whole)
    (hfraction : IsFraction fraction) (hexponent : IsExponent exponent) (hrest : EndsNumber rest) :
    number? (whole ++ (fraction ++ (exponent ++ rest))) = some rest := by
  have hends : ∀ c ∈ (fraction ++ (exponent ++ rest)).head?, c.isDigit = false := by
    intro c hc
    rcases hfraction with rfl | ⟨digits, -, rfl⟩
    · exact (head?_exponent_append hexponent hrest c hc).1
    · obtain rfl := Option.some.inj hc
      rfl
  rw [number?_append hwhole hends, afterWhole?_append hfraction hexponent hrest]

-- None of the other values starts with a digit.
theorem value?_of_digit {c : Char} (hc : c.isDigit) (fuel : Nat) (cs : List Char) :
    value? (fuel + 1) (c :: cs) = (number? (c :: cs)).map (⟨none, ·⟩) := by
  have hspace : isSpace c = false := by
    simp [isSpace, ne_of_isDigit hc]
  rw [value?, skipSpace_cons hspace]
  split
  case h_8 => cases number? (c :: cs) <;> rfl
  all_goals
    next heq =>
    obtain ⟨rfl, -⟩ := List.cons.inj heq
    cases hc

theorem value?_of_isNumber {cs rest : List Char} (h : IsNumber cs) (hrest : EndsNumber rest) (fuel : Nat) :
    value? (fuel + 1) (cs ++ rest) = some ⟨boolOf? cs, rest⟩ := by
  obtain ⟨sign, hsign, whole, fraction, exponent, hwhole, hfraction, hexponent, rfl⟩ := h
  have hread := number?_of_isNumber hwhole hfraction hexponent hrest
  obtain ⟨first, others, rfl, hfirst⟩ := exists_first_digit hwhole.1
  simp only [List.mem_cons, List.not_mem_nil, or_false] at hsign
  rcases hsign with rfl | rfl
  · have hnone := boolOf?_cons (ne_of_isDigit hfirst rfl) (ne_of_isDigit hfirst rfl)
    simp only [List.nil_append, List.cons_append, List.append_assoc] at hread ⊢
    rw [value?_of_digit hfirst, hread, hnone, Option.map_some]
  · have hnone := boolOf?_cons (c := '-') (by decide) (by decide)
    simp only [List.cons_append, List.nil_append, List.append_assoc] at hread ⊢
    rw [hnone, value?, skipSpace_cons (by decide)]
    simp [hread]

theorem value?_append_space {gap : List Char} (h : Spaces gap) (fuel : Nat) (cs : List Char) :
    value? fuel (gap ++ cs) = value? fuel cs := by
  cases fuel with
  | zero => rfl
  | succ fuel => rw [value?, value?, skipSpace_append h]

-- The marks after which no part of a value can follow.
def isMark (c : Char) : Bool :=
  c = ',' || c = ']' || c = '}'

theorem endsNumber_append_mark {gap : List Char} (h : Spaces gap) {mark : Char} (hmark : isMark mark)
    (rest : List Char) : EndsNumber (gap ++ mark :: rest) := by
  intro c hc
  cases gap with
  | nil =>
      obtain rfl := Option.some.inj hc
      simp only [isMark, Bool.or_eq_true, decide_eq_true_eq] at hmark
      rcases hmark with (rfl | rfl) | rfl <;> decide
  | cons first gap =>
      obtain rfl := Option.some.inj hc
      have hspace := h first List.mem_cons_self
      simp only [List.mem_cons, List.not_mem_nil, or_false] at hspace
      rcases hspace with rfl | rfl | rfl | rfl <;> decide

theorem exists_head_of_value {cs : List Char} (h : Derives .value cs) :
    ∃ c others, cs = c :: others ∧ isSpace c = false ∧ c ≠ ']' := by
  cases h with
  | null => exact ⟨'n', _, rfl, by decide, by decide⟩
  | bool value => cases value <;> exact ⟨_, _, rfl, by decide, by decide⟩
  | string _ => exact ⟨'"', _, rfl, by decide, by decide⟩
  | array _ => exact ⟨'[', _, rfl, by decide, by decide⟩
  | object _ => exact ⟨'{', _, rfl, by decide, by decide⟩
  | number h =>
      obtain ⟨sign, hsign, whole, fraction, exponent, hwhole, -, -, rfl⟩ := h
      obtain ⟨first, others, rfl, hfirst⟩ := exists_first_digit hwhole.1
      simp only [List.mem_cons, List.not_mem_nil, or_false] at hsign
      rcases hsign with rfl | rfl
      · exact ⟨first, _, rfl, by simp [isSpace, ne_of_isDigit hfirst], ne_of_isDigit hfirst rfl⟩
      · exact ⟨'-', _, rfl, by decide, by decide⟩

-- What a member looks like to a reader that keeps of its value only whether it is a boolean.
def glance? (member : Member) : Option (String × Option Bool) :=
  member.name.map (·, boolOf? member.value)

-- A phrase is read to its end, whatever follows, if there is a unit of fuel for every character.
def IsRead : Phrase → List Char → Prop
  | .value, cs => ∀ fuel rest, cs.length ≤ fuel + 1 → EndsNumber rest →
      value? (fuel + 1) (cs ++ rest) = some ⟨boolOf? cs, rest⟩
  | .items values, cs => values ≠ [] → ∀ fuel rest, cs.length ≤ fuel →
      items? (fuel + 1) (cs ++ ']' :: rest) = some rest
  | .members members, cs => members ≠ [] → ∀ fuel rest, cs.length ≤ fuel →
      members? (fuel + 1) (cs ++ '}' :: rest) = some rest ∧
        outline? (fuel + 1) (cs ++ '}' :: rest) = (members.mapM glance?).map (·, rest)

theorem IsRead.padded {value cs : List Char} (h : IsRead .value value) (hvalue : Derives .value value)
    (hpadded : Padded value cs) {fuel : Nat} (hfuel : cs.length ≤ fuel) {mark : Char}
    (hmark : isMark mark) (rest : List Char) :
    ∃ left, value? fuel (cs ++ mark :: rest) = some ⟨boolOf? value, left⟩ ∧
      skipSpace left = mark :: rest := by
  obtain ⟨before, after, hbefore, hafter, rfl⟩ := hpadded
  obtain ⟨c, others, hhead, -⟩ := exists_head_of_value hvalue
  have hlength : value.length = others.length + 1 := by rw [hhead, List.length_cons]
  simp only [List.length_append] at hfuel
  obtain ⟨fuel, rfl⟩ : ∃ n, fuel = n + 1 := ⟨fuel - 1, by omega⟩
  refine ⟨after ++ mark :: rest, ?_, ?_⟩
  · rw [List.append_assoc, List.append_assoc, value?_append_space hbefore]
    exact h fuel _ (by omega) (endsNumber_append_mark hafter hmark rest)
  · refine skipSpace_append_cons hafter ?_ rest
    simp only [isMark, Bool.or_eq_true, decide_eq_true_eq] at hmark
    rcases hmark with (rfl | rfl) | rfl <;> rfl

theorem exists_skipSpace_of_label {name : Option String} {label : List Char} (h : IsLabel name label)
    (rest : List Char) :
    ∃ body pieces left, skipSpace (label ++ ':' :: rest) = '"' :: body ∧
      Quoted.pieces? body = some (pieces, left) ∧ Quoted.read? body = name.map (·, left) ∧
      skipSpace left = ':' :: rest := by
  obtain ⟨pieces, body, hstring, hname, before, after, hbefore, hafter, rfl⟩ := h
  refine ⟨body ++ '"' :: (after ++ ':' :: rest), pieces, after ++ ':' :: rest, ?_,
    Quoted.pieces?_of_isString hstring _, Quoted.read?_of_isString hstring hname _,
    skipSpace_append_cons hafter rfl rest⟩
  rw [List.append_assoc, List.append_assoc]
  simpa using skipSpace_append_cons hbefore (c := '"') rfl (body ++ '"' :: (after ++ ':' :: rest))

theorem name?_of_label {name : Option String} {label : List Char} (h : IsLabel name label)
    (rest : List Char) : name? (label ++ ':' :: rest) = name.map (·, rest) := by
  obtain ⟨body, pieces, left, hopen, -, hread, hclose⟩ := exists_skipSpace_of_label h rest
  cases name <;> simp [name?, hopen, hread, hclose]

-- An array with items does not look like an empty one, and neither does an object with members.
theorem exists_skipSpace_of_items {value : List Char} {values : List (List Char)} {cs : List Char}
    (h : Derives (.items (value :: values)) cs) (rest : List Char) :
    ∃ c others, skipSpace (cs ++ rest) = c :: others ∧ c ≠ ']' := by
  have hvalue : ∀ {cs}, Derives .value value → Padded value cs → ∀ rest,
      ∃ c others, skipSpace (cs ++ rest) = c :: others ∧ c ≠ ']' := by
    rintro _ hvalue ⟨before, after, hbefore, -, rfl⟩ rest
    obtain ⟨c, others, rfl, hspace, hend⟩ := exists_head_of_value hvalue
    refine ⟨c, others ++ (after ++ rest), ?_, hend⟩
    simpa using skipSpace_append_cons hbefore hspace (others ++ (after ++ rest))
  cases h with
  | lastItem h hpadded => exact hvalue h hpadded rest
  | item h hpadded _ =>
      rw [List.append_assoc]
      exact hvalue h hpadded _

theorem exists_skipSpace_of_members {member : Member} {members : List Member} {cs : List Char}
    (h : Derives (.members (member :: members)) cs) (rest : List Char) :
    ∃ others, skipSpace (cs ++ rest) = '"' :: others := by
  cases h with
  | lastMember hlabel _ _ | member hlabel _ _ _ =>
      rw [List.append_assoc, List.cons_append]
      obtain ⟨body, -, -, hopen, -⟩ := exists_skipSpace_of_label hlabel _
      exact ⟨body, hopen⟩

theorem isRead_array {values : List (List Char)} {cs : List Char} (h : Derives (.items values) cs)
    (ih : IsRead (.items values) cs) : IsRead .value ('[' :: (cs ++ [']'])) := by
  intro fuel rest hfuel _
  simp only [List.length_cons, List.length_append, List.length_nil] at hfuel
  obtain ⟨fuel, rfl⟩ : ∃ n, fuel = n + 1 := ⟨fuel - 1, by omega⟩
  have htext : '[' :: (cs ++ [']']) ++ rest = '[' :: (cs ++ ']' :: rest) := by simp
  rw [boolOf?_cons (by decide) (by decide), htext, value?, skipSpace_cons (by decide)]
  cases values with
  | nil =>
      cases h with
      | noItems hgap => simp [skipSpace_append_cons hgap (c := ']') (by decide)]
  | cons value values =>
      obtain ⟨c, others, hhead, hend⟩ := exists_skipSpace_of_items h (']' :: rest)
      have hread := ih (by simp) fuel rest (by omega)
      simp [hhead, hend, hread]

theorem isRead_object {members : List Member} {cs : List Char} (h : Derives (.members members) cs)
    (ih : IsRead (.members members) cs) : IsRead .value ('{' :: (cs ++ ['}'])) := by
  intro fuel rest hfuel _
  simp only [List.length_cons, List.length_append, List.length_nil] at hfuel
  obtain ⟨fuel, rfl⟩ : ∃ n, fuel = n + 1 := ⟨fuel - 1, by omega⟩
  have htext : '{' :: (cs ++ ['}']) ++ rest = '{' :: (cs ++ '}' :: rest) := by simp
  rw [boolOf?_cons (by decide) (by decide), htext, value?, skipSpace_cons (by decide)]
  cases members with
  | nil =>
      cases h with
      | noMembers hgap => simp [skipSpace_append_cons hgap (c := '}') (by decide)]
  | cons member members =>
      obtain ⟨others, hhead⟩ := exists_skipSpace_of_members h ('}' :: rest)
      have hread := (ih (by simp) fuel rest (by omega)).1
      simp [hhead, hread]

theorem isRead_item {value cs next others : List Char} {values : List (List Char)}
    (hvalue : Derives .value value) (hpadded : Padded value cs) (ih : IsRead .value value)
    (ihrest : IsRead (.items (next :: values)) others) :
    IsRead (.items (value :: next :: values)) (cs ++ ',' :: others) := by
  intro _ fuel rest hfuel
  simp only [List.length_append, List.length_cons] at hfuel
  obtain ⟨fuel, rfl⟩ : ∃ n, fuel = n + 1 := ⟨fuel - 1, by omega⟩
  have hcs : cs.length ≤ fuel + 1 := by omega
  have hmark : isMark ',' := rfl
  obtain ⟨left, hread, hleft⟩ := ih.padded hvalue hpadded hcs hmark (others ++ ']' :: rest)
  have hothers := ihrest (by simp) fuel rest (by omega)
  rw [List.append_assoc, List.cons_append, items?, hread]
  simp [hleft, hothers]

theorem isRead_lastMember {name : Option String} {label value cs : List Char}
    (hlabel : IsLabel name label) (hvalue : Derives .value value) (hpadded : Padded value cs)
    (ih : IsRead .value value) : IsRead (.members [⟨name, value⟩]) (label ++ ':' :: cs) := by
  intro _ fuel rest hfuel
  simp only [List.length_append, List.length_cons] at hfuel
  have hcs : cs.length ≤ fuel := by omega
  have hmark : isMark '}' := rfl
  obtain ⟨left, hread, hleft⟩ := ih.padded hvalue hpadded hcs hmark rest
  obtain ⟨body, pieces, after, hopen, hpieces, -, hcolon⟩ :=
    exists_skipSpace_of_label hlabel (cs ++ '}' :: rest)
  have hname := name?_of_label hlabel (cs ++ '}' :: rest)
  rw [List.append_assoc, List.cons_append]
  constructor
  · simp [members?, hopen, hpieces, hcolon, hread, hleft]
  · cases name <;> simp [outline?, hname, hread, hleft, glance?]

theorem isRead_member {name : Option String} {label value cs others : List Char} {next : Member}
    {members : List Member} (hlabel : IsLabel name label) (hvalue : Derives .value value)
    (hpadded : Padded value cs) (ih : IsRead .value value)
    (ihrest : IsRead (.members (next :: members)) others) :
    IsRead (.members (⟨name, value⟩ :: next :: members)) (label ++ ':' :: (cs ++ ',' :: others)) := by
  intro _ fuel rest hfuel
  simp only [List.length_append, List.length_cons] at hfuel
  obtain ⟨fuel, rfl⟩ : ∃ n, fuel = n + 1 := ⟨fuel - 1, by omega⟩
  have hcs : cs.length ≤ fuel + 1 := by omega
  have hmark : isMark ',' := rfl
  obtain ⟨left, hread, hleft⟩ := ih.padded hvalue hpadded hcs hmark (others ++ '}' :: rest)
  obtain ⟨body, pieces, after, hopen, hpieces, -, hcolon⟩ :=
    exists_skipSpace_of_label hlabel (cs ++ ',' :: (others ++ '}' :: rest))
  have hname := name?_of_label hlabel (cs ++ ',' :: (others ++ '}' :: rest))
  obtain ⟨hmembers, houtline⟩ := ihrest (by simp) fuel rest (by omega)
  have htext : label ++ ':' :: (cs ++ ',' :: others) ++ '}' :: rest =
      label ++ ':' :: (cs ++ ',' :: (others ++ '}' :: rest)) := by simp
  rw [htext]
  constructor
  · rw [members?, hopen]
    simp [hpieces, hcolon, hread, hleft, hmembers]
  · rw [outline?, hname, List.mapM_cons]
    generalize (next :: members).mapM glance? = glances at houtline
    cases name with
    | none => rfl
    | some name => cases glances <;> simp [hread, hleft, houtline, glance?]

-- Every phrase of the grammar is read. The induction is over its derivation, and each item, member
-- and bracket takes one unit of fuel and one character.
theorem isRead_of_derives {phrase : Phrase} {cs : List Char} (h : Derives phrase cs) :
    IsRead phrase cs := by
  induction h with
  | null => exact fun _ _ _ _ => rfl
  | bool value =>
      intro fuel rest _ _
      rw [boolOf?_eq_some_iff.mpr rfl]
      cases value <;> rfl
  | number h => exact fun fuel _ _ hrest => value?_of_isNumber h hrest fuel
  | string h =>
      intro fuel rest _ _
      rw [boolOf?_cons (by decide) (by decide), value?]
      simp [skipSpace_cons, isSpace, Quoted.pieces?_of_isString h]
  | array h ih => exact isRead_array h ih
  | object h ih => exact isRead_object h ih
  | noItems _ | noMembers _ => exact fun hne => absurd rfl hne
  | lastItem hvalue hpadded ih =>
      intro _ fuel rest hfuel
      have hmark : isMark ']' := rfl
      obtain ⟨left, hread, hleft⟩ := ih.padded hvalue hpadded hfuel hmark rest
      simp [items?, hread, hleft]
  | item hvalue hpadded _ ih ihrest => exact isRead_item hvalue hpadded ih ihrest
  | lastMember hlabel hvalue hpadded ih => exact isRead_lastMember hlabel hvalue hpadded ih
  | member hlabel hvalue hpadded _ ih ihrest => exact isRead_member hlabel hvalue hpadded ih ihrest

end Skim

end DocModule.Json
