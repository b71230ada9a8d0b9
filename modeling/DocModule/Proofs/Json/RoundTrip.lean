import DocModule.Json.Reader
import DocModule.Json.Writer
import DocModule.Text.Quoted.Lemmas

namespace DocModule.Json

open Text

@[simp] theorem writeItems_eq_map (items : List Json) : writeItems items = items.map write := by
  induction items with
  | nil => rfl
  | cons item items ih => rw [writeItems, ih, List.map_cons]

def writeMember (member : String × Json) : String :=
  Quoted.literal member.1 ++ ":" ++ write member.2

@[simp] theorem writeMembers_eq_map (members : List (String × Json)) :
    writeMembers members = members.map writeMember := by
  induction members with
  | nil => rfl
  | cons member members ih => rw [writeMembers, ih, List.map_cons, writeMember]

-- A value without numbers that is nested at most as deep as said.
inductive Plain : Nat → Json → Prop
  | null {depth : Nat} : Plain depth .null
  | bool {depth : Nat} (value : Bool) : Plain depth (.bool value)
  | string {depth : Nat} (value : String) : Plain depth (.string value)
  | array {depth : Nat} {items : List Json} :
      (∀ item ∈ items, Plain depth item) → Plain (depth + 1) (.array items)
  | object {depth : Nat} {members : List (String × Json)} :
      (∀ member ∈ members, Plain depth member.2) → Plain (depth + 1) (.object members)

theorem skipSpace_cons {c : Char} (h : isSpace c = false) (cs : List Char) :
    skipSpace (c :: cs) = c :: cs := by
  simp [skipSpace, h]

theorem toList_literal (s : String) (rest : List Char) :
    (Quoted.literal s).toList ++ rest = '"' :: (Quoted.encode s.toList ++ '"' :: rest) := by
  simp [Quoted.literal]

theorem value?_literal (fuel depth : Nat) (s : String) (rest : List Char) :
    value? (fuel + 1) depth ((Quoted.literal s).toList ++ rest) = some (.string s, rest) := by
  rw [toList_literal]
  simp [value?, skipSpace_cons, isSpace, Quoted.read?_encode]

theorem name?_literal (name : String) (rest : List Char) :
    name? ((Quoted.literal name).toList ++ ':' :: rest) = some (name, rest) := by
  rw [toList_literal]
  simp [name?, skipSpace_cons, isSpace, Quoted.read?_encode]

-- What a value starts with is neither space nor the end of an array.
theorem exists_head_write {depth : Nat} {value : Json} (h : Plain depth value) :
    ∃ c cs, (write value).toList = c :: cs ∧ isSpace c = false ∧ c ≠ ']' := by
  cases h with
  | null => exact ⟨'n', ['u', 'l', 'l'], by decide, by decide, by decide⟩
  | bool value => cases value <;> exact ⟨_, _, by rfl, by decide, by decide⟩
  | string value => exact ⟨'"', _, by simp [write, Quoted.literal]; rfl, by decide, by decide⟩
  | array _ => exact ⟨'[', _, by simp [write]; rfl, by decide, by decide⟩
  | object _ => exact ⟨'\x7b', _, by simp [write]; rfl, by decide, by decide⟩

theorem value?_array {fuel depth : Nat} {c : Char} {cs : List Char} {items : List Json}
    {rest : List Char} (hspace : isSpace c = false) (hend : c ≠ ']')
    (h : items? fuel depth (c :: cs) = some (items, rest)) :
    value? (fuel + 1) (depth + 1) ('[' :: c :: cs) = some (.array items, rest) := by
  have hbracket : skipSpace ('[' :: c :: cs) = '[' :: c :: cs := skipSpace_cons (by decide) _
  rw [value?, hbracket]
  simp [skipSpace_cons hspace, hend, h]

theorem value?_object {fuel depth : Nat} {cs : List Char} {members : List (String × Json)}
    {rest : List Char} (h : members? fuel depth ('"' :: cs) = some (members, rest)) :
    value? (fuel + 1) (depth + 1) ('\x7b' :: '"' :: cs) = some (.object members, rest) := by
  have hquote : skipSpace ('"' :: cs) = '"' :: cs := skipSpace_cons (by decide) cs
  have hbrace : skipSpace ('\x7b' :: '"' :: cs) = '\x7b' :: '"' :: cs := skipSpace_cons (by decide) _
  rw [value?, hbrace]
  simp [hquote, h]

theorem toList_joined_cons (text : String) {texts : List String} (h : texts ≠ []) :
    (joined "," (text :: texts)).toList = text.toList ++ ',' :: (joined "," texts).toList := by
  rw [joined_cons "," text h]
  simp

theorem exists_head_joined {text : String} {c : Char} {cs : List Char} (h : text.toList = c :: cs)
    (texts : List String) : ∃ rest, (joined "," (text :: texts)).toList = c :: rest := by
  by_cases hne : texts = []
  · subst hne
    exact ⟨cs, h⟩
  · rw [toList_joined_cons text hne, h]
    exact ⟨_, rfl⟩

-- A value is read back from its text, whatever follows, if there is a unit of fuel for every
-- character of the text.
def ReadsBack (depth : Nat) (value : Json) : Prop :=
  ∀ fuel rest, (write value).toList.length ≤ fuel →
    value? fuel depth ((write value).toList ++ rest) = some (value, rest)

-- Each item but the last one leaves the comma and the items after it, for which one unit of fuel
-- less is enough.
theorem items?_joined {depth : Nat} {items : List Json} (hne : items ≠ [])
    (h : ∀ item ∈ items, ReadsBack depth item) (fuel : Nat) (rest : List Char)
    (hfuel : (joined "," (items.map write)).toList.length < fuel) :
    items? fuel depth ((joined "," (items.map write)).toList ++ ']' :: rest) = some (items, rest) := by
  induction items generalizing fuel with
  | nil => exact absurd rfl hne
  | cons item items ih =>
      obtain ⟨fuel, rfl⟩ : ∃ n, fuel = n + 1 := ⟨fuel - 1, by omega⟩
      have hitem := h item List.mem_cons_self
      cases items with
      | nil =>
          have hvalue := hitem fuel (']' :: rest) (Nat.le_of_lt_succ (by simpa using hfuel))
          simp [items?, hvalue, skipSpace_cons, isSpace]
      | cons next items =>
          have hrest : ∀ other ∈ next :: items, ReadsBack depth other := fun other hmem =>
            h other (List.mem_cons_of_mem _ hmem)
          simp only [List.map_cons] at ih hfuel ⊢
          rw [toList_joined_cons _ (by simp)] at hfuel ⊢
          simp only [List.length_append, List.length_cons] at hfuel
          have hvalue := hitem fuel
            (',' :: ((joined "," (write next :: items.map write)).toList ++ ']' :: rest)) (by omega)
          have hitems := ih (by simp) hrest fuel (by omega)
          simp [items?, hvalue, skipSpace_cons, isSpace, hitems]

theorem toList_writeMember (member : String × Json) (rest : List Char) :
    (writeMember member).toList ++ rest =
      (Quoted.literal member.1).toList ++ ':' :: ((write member.2).toList ++ rest) := by
  simp [writeMember]

theorem members?_joined {depth : Nat} {members : List (String × Json)} (hne : members ≠ [])
    (h : ∀ member ∈ members, ReadsBack depth member.2) (fuel : Nat) (rest : List Char)
    (hfuel : (joined "," (members.map writeMember)).toList.length < fuel) :
    members? fuel depth ((joined "," (members.map writeMember)).toList ++ '\x7d' :: rest) =
      some (members, rest) := by
  induction members generalizing fuel with
  | nil => exact absurd rfl hne
  | cons member members ih =>
      obtain ⟨fuel, rfl⟩ : ∃ n, fuel = n + 1 := ⟨fuel - 1, by omega⟩
      have hmember := h member List.mem_cons_self
      have hlength : (write member.2).toList.length ≤ (writeMember member).toList.length := by
        simp [writeMember]
        omega
      cases members with
      | nil =>
          have hlt : (writeMember member).toList.length < fuel + 1 := by simpa using hfuel
          have hvalue := hmember fuel ('\x7d' :: rest) (by omega)
          simp only [List.map_cons, List.map_nil, joined_singleton, toList_writeMember]
          simp [members?, name?_literal, hvalue, skipSpace_cons, isSpace]
      | cons next members =>
          have hrest : ∀ other ∈ next :: members, ReadsBack depth other.2 := fun other hmem =>
            h other (List.mem_cons_of_mem _ hmem)
          simp only [List.map_cons] at ih hfuel ⊢
          rw [toList_joined_cons _ (by simp)] at hfuel ⊢
          simp only [List.length_append, List.length_cons] at hfuel
          have hvalue := hmember fuel
            (',' :: ((joined "," (writeMember next :: members.map writeMember)).toList ++
              '\x7d' :: rest)) (by omega)
          have hmembers := ih (by simp) hrest fuel (by omega)
          rw [List.append_assoc, toList_writeMember]
          simp [members?, name?_literal, hvalue, skipSpace_cons, isSpace, hmembers]

theorem exists_fuel {depth fuel : Nat} {value : Json}
    (hfuel : (write value).toList.length ≤ fuel) (h : Plain depth value) : ∃ n, fuel = n + 1 := by
  obtain ⟨c, cs, hhead, _⟩ := exists_head_write h
  rw [hhead, List.length_cons] at hfuel
  exact ⟨fuel - 1, by omega⟩

theorem readsBack_array {depth : Nat} {items : List Json} (hplain : ∀ item ∈ items, Plain depth item)
    (h : ∀ item ∈ items, ReadsBack depth item) : ReadsBack (depth + 1) (.array items) := by
  intro fuel rest hfuel
  obtain ⟨fuel, rfl⟩ := exists_fuel hfuel (.array hplain)
  cases items with
  | nil => rfl
  | cons item items =>
      have htext : (write (.array (item :: items))).toList ++ rest =
          '[' :: ((joined "," ((item :: items).map write)).toList ++ ']' :: rest) := by
        simp [write]
      have hlength : (joined "," ((item :: items).map write)).toList.length < fuel := by
        have h := congrArg List.length htext
        simp only [List.length_append, List.length_cons] at h
        omega
      have hread := items?_joined (by simp) h fuel rest hlength
      obtain ⟨c, cs, hhead, hspace, hend⟩ := exists_head_write (hplain item List.mem_cons_self)
      obtain ⟨tail, hjoined⟩ := exists_head_joined hhead (items.map write)
      rw [List.map_cons, hjoined, List.cons_append] at hread htext
      rw [htext]
      exact value?_array hspace hend hread

theorem readsBack_object {depth : Nat} {members : List (String × Json)}
    (hplain : ∀ member ∈ members, Plain depth member.2)
    (h : ∀ member ∈ members, ReadsBack depth member.2) : ReadsBack (depth + 1) (.object members) := by
  intro fuel rest hfuel
  obtain ⟨fuel, rfl⟩ := exists_fuel hfuel (.object hplain)
  cases members with
  | nil => rfl
  | cons member members =>
      have htext : (write (.object (member :: members))).toList ++ rest =
          '\x7b' :: ((joined "," ((member :: members).map writeMember)).toList ++ '\x7d' :: rest) := by
        simp [write]
      have hlength : (joined "," ((member :: members).map writeMember)).toList.length < fuel := by
        have h := congrArg List.length htext
        simp only [List.length_append, List.length_cons] at h
        omega
      have hread := members?_joined (by simp) h fuel rest hlength
      have hhead := toList_writeMember member []
      rw [List.append_nil, toList_literal] at hhead
      obtain ⟨tail, hjoined⟩ := exists_head_joined hhead (members.map writeMember)
      rw [List.map_cons, hjoined, List.cons_append] at hread htext
      rw [htext]
      exact value?_object hread

-- Every value without numbers is read back. The induction is over the nesting of the value, and each
-- level needs one unit of fuel for its opening bracket.
theorem readsBack_of_plain {depth : Nat} {value : Json} (h : Plain depth value) :
    ReadsBack depth value := by
  induction h with
  | null =>
      intro fuel rest hfuel
      obtain ⟨fuel, rfl⟩ := exists_fuel hfuel (@Plain.null 0)
      rfl
  | bool value =>
      intro fuel rest hfuel
      obtain ⟨fuel, rfl⟩ := exists_fuel hfuel (@Plain.bool 0 value)
      cases value <;> rfl
  | string value =>
      intro fuel rest hfuel
      obtain ⟨fuel, rfl⟩ := exists_fuel hfuel (@Plain.string 0 value)
      exact value?_literal fuel _ value rest
  | array hitems ih => exact readsBack_array hitems ih
  | object hmembers ih => exact readsBack_object hmembers ih

-- The text of a value without numbers holds that value and nothing else.
theorem parse?_write {value : Json} (h : Plain depthLimit value) :
    parse? (write value) = some value := by
  have hread := readsBack_of_plain h (fuelFor (write value).toList) [] (by simp [fuelFor]; omega)
  rw [List.append_nil] at hread
  simp [parse?, hread, skipSpace]

end DocModule.Json
