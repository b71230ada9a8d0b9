import DocModule.Yaml.Value
import DocModule.Proofs.Json.Lookup
import Mathlib.Data.List.Forall2

namespace DocModule.Yaml.Value

-- The values that have a text, and the text that each of them has. It is the same for a key and for
-- what stands under it.
inductive Prints : Value → String → Prop
  | string (text : String) : Prints (.string text) text
  | int (value : Int) : Prints (.int value) (Number.int value).text
  | float (value : Decimal.Binary64) : Prints (.float value) (Number.float value).text
  | bool (value : Bool) : Prints (.bool value) (boolText value)

-- The values that have none.
inductive Textless : Value → Prop
  | null : Textless .null
  | notFinite : Textless .notFinite
  | sequence (items : List Value) : Textless (.sequence items)
  | mapping (pairs : List (Value × Value)) : Textless (.mapping pairs)
  | tagged (tag : String) (content : Value) : Textless (.tagged tag content)

-- A key of a mapping at any depth of a value.
inductive HasKey : Value → Value → Prop
  | here {pairs : List (Value × Value)} {pair : Value × Value} :
      pair ∈ pairs → HasKey (.mapping pairs) pair.1
  | inKey {pairs : List (Value × Value)} {pair : Value × Value} {key : Value} :
      pair ∈ pairs → HasKey pair.1 key → HasKey (.mapping pairs) key
  | inValue {pairs : List (Value × Value)} {pair : Value × Value} {key : Value} :
      pair ∈ pairs → HasKey pair.2 key → HasKey (.mapping pairs) key
  | inItem {items : List Value} {item key : Value} :
      item ∈ items → HasKey item key → HasKey (.sequence items) key
  | underTag {tag : String} {content key : Value} :
      HasKey content key → HasKey (.tagged tag content) key

-- The last entry of a mapping whose key has a name as its text.
def IsLast (pairs : List (Value × Value)) (name : String) (value : Value) : Prop :=
  ∃ before key after, pairs = before ++ (key, value) :: after ∧ Prints key name ∧
    ∀ pair ∈ after, ¬ Prints pair.1 name

section Texts

variable {value : Value} {text : String}

theorem keyText?_eq_some_iff : keyText? value = some text ↔ Prints value text := by
  constructor
  · intro h
    cases value with
    | string value => exact Option.some.inj h ▸ .string value
    | int value => exact Option.some.inj h ▸ .int value
    | float value => exact Option.some.inj h ▸ .float value
    | bool value => exact Option.some.inj h ▸ .bool value
    | null | notFinite | sequence _ | mapping _ | tagged _ _ => cases h
  · rintro (_ | _ | _ | _) <;> rfl

theorem Prints.unique {other : String} (h : Prints value text) (h' : Prints value other) :
    text = other := by
  have htext := keyText?_eq_some_iff.mpr h
  rw [keyText?_eq_some_iff.mpr h'] at htext
  exact (Option.some.inj htext).symm

theorem Textless.not_prints (h : Textless value) : ¬ Prints value text := by
  cases h <;> exact nofun

theorem Prints.not_hasKey (h : Prints value text) {key : Value} : ¬ HasKey value key := by
  cases h <;> exact nofun

-- As JSON, a value has the text that it has, or none if it has none.
theorem exists_scalarText?_iff :
    (∃ json, toJson? value = some json ∧ json.scalarText? = some text) ↔ Prints value text := by
  constructor
  · rintro ⟨json, hjson, htext⟩
    cases value with
    | string value =>
        obtain rfl := Option.some.inj hjson
        exact Option.some.inj htext ▸ .string value
    | int value =>
        obtain rfl := Option.some.inj hjson
        exact Option.some.inj htext ▸ .int value
    | float value =>
        obtain rfl := Option.some.inj hjson
        exact Option.some.inj htext ▸ .float value
    | bool value =>
        obtain rfl := Option.some.inj hjson
        exact Option.some.inj htext ▸ .bool value
    | null | notFinite =>
        obtain rfl := Option.some.inj hjson
        cases htext
    | sequence items | mapping pairs | tagged tag content =>
        simp only [toJson?, Option.bind_eq_bind, Option.bind_eq_some_iff, Option.some.injEq] at hjson
        obtain ⟨_, _, rfl⟩ := hjson
        cases htext
  · rintro (_ | _ | _ | _) <;> exact ⟨_, rfl, rfl⟩

end Texts

-- An entry of a mapping and the member of an object that it becomes.
def IsMember (pair : Value × Value) (member : String × Json) : Prop :=
  Prints pair.1 member.1 ∧ toJson? pair.2 = some member.2

section Lists

theorem toItems?_eq_some_iff {items : List Value} {jsons : List Json} :
    toItems? items = some jsons ↔
      List.Forall₂ (fun item json => toJson? item = some json) items jsons := by
  induction items generalizing jsons with
  | nil => simp [toItems?, eq_comm]
  | cons item items ih =>
      simp only [toItems?, Option.bind_eq_bind, Option.bind_eq_some_iff, Option.some.injEq,
        List.forall₂_cons_left_iff, ih]
      constructor
      · rintro ⟨json, hjson, rest, hrest, rfl⟩
        exact ⟨json, rest, hjson, hrest, rfl⟩
      · rintro ⟨json, rest, hjson, hrest, rfl⟩
        exact ⟨json, hjson, rest, hrest, rfl⟩

theorem toMembers?_eq_some_iff {pairs : List (Value × Value)} {members : List (String × Json)} :
    toMembers? pairs = some members ↔ List.Forall₂ IsMember pairs members := by
  induction pairs generalizing members with
  | nil => simp [toMembers?, eq_comm]
  | cons pair pairs ih =>
      simp only [toMembers?, Option.bind_eq_bind, Option.bind_eq_some_iff, Option.some.injEq,
        List.forall₂_cons_left_iff, ih, keyText?_eq_some_iff, IsMember]
      constructor
      · rintro ⟨name, hname, json, hjson, rest, hrest, rfl⟩
        exact ⟨(name, json), rest, ⟨hname, hjson⟩, hrest, rfl⟩
      · rintro ⟨⟨name, json⟩, rest, ⟨hname, hjson⟩, hrest, rfl⟩
        exact ⟨name, hname, json, hjson, rest, hrest, rfl⟩

theorem exists_forall₂_of_forall {α β : Type} {related : α → β → Prop} {entries : List α}
    (h : ∀ entry ∈ entries, ∃ image, related entry image) :
    ∃ images, List.Forall₂ related entries images := by
  induction entries with
  | nil => exact ⟨[], .nil⟩
  | cons entry entries ih =>
      obtain ⟨image, himage⟩ := h entry List.mem_cons_self
      obtain ⟨images, himages⟩ := ih fun other hmem => h other (List.mem_cons_of_mem _ hmem)
      exact ⟨image :: images, .cons himage himages⟩

theorem exists_of_forall₂_of_mem {α β : Type} {related : α → β → Prop} {entries : List α}
    {images : List β} (h : List.Forall₂ related entries images) {entry : α} (hmem : entry ∈ entries) :
    ∃ image ∈ images, related entry image := by
  induction h with
  | nil => cases hmem
  | cons hfirst _ ih =>
      rcases List.mem_cons.mp hmem with rfl | hrest
      · exact ⟨_, List.mem_cons_self, hfirst⟩
      · obtain ⟨image, himage, hrelated⟩ := ih hrest
        exact ⟨image, List.mem_cons_of_mem _ himage, hrelated⟩

end Lists

-- The keys of a value that can be written as JSON all have a text. A key that has one holds no keys.
theorem prints_of_hasKey {value key : Value} (hkey : HasKey value key) {json : Json}
    (hjson : toJson? value = some json) : ∃ text, Prints key text := by
  have hmembers : ∀ {pairs : List (Value × Value)} {json : Json}, toJson? (.mapping pairs) = some json →
      ∀ {pair}, pair ∈ pairs → ∃ member, IsMember pair member := by
    intro pairs json hjson pair hpair
    simp only [toJson?, Option.bind_eq_bind, Option.bind_eq_some_iff, toMembers?_eq_some_iff] at hjson
    obtain ⟨members, hmembers, -⟩ := hjson
    obtain ⟨member, -, hmember⟩ := exists_of_forall₂_of_mem hmembers hpair
    exact ⟨member, hmember⟩
  induction hkey generalizing json with
  | here hpair =>
      obtain ⟨member, hmember⟩ := hmembers hjson hpair
      exact ⟨member.1, hmember.1⟩
  | inKey hpair hinner _ =>
      obtain ⟨member, hmember⟩ := hmembers hjson hpair
      exact absurd hinner hmember.1.not_hasKey
  | inValue hpair _ ih =>
      obtain ⟨member, hmember⟩ := hmembers hjson hpair
      exact ih hmember.2
  | inItem hitem _ ih =>
      simp only [toJson?, Option.bind_eq_bind, Option.bind_eq_some_iff, toItems?_eq_some_iff] at hjson
      obtain ⟨jsons, hjsons, -⟩ := hjson
      obtain ⟨image, -, himage⟩ := exists_of_forall₂_of_mem hjsons hitem
      exact ih himage
  | underTag _ ih =>
      simp only [toJson?, Option.bind_eq_bind, Option.bind_eq_some_iff] at hjson
      obtain ⟨image, himage, -⟩ := hjson
      exact ih himage

theorem exists_toJson?_of_keys (value : Value) (h : ∀ key, HasKey value key → ∃ text, Prints key text) :
    ∃ json, toJson? value = some json := by
  match value with
  | .null | .bool _ | .int _ | .float _ | .notFinite | .string _ => exact ⟨_, rfl⟩
  | .sequence items =>
      have hitems : ∀ item ∈ items, ∃ json, toJson? item = some json := fun item hitem =>
        exists_toJson?_of_keys item fun key hkey => h key (.inItem hitem hkey)
      obtain ⟨jsons, hjsons⟩ := exists_forall₂_of_forall hitems
      exact ⟨.array jsons, by simp [toJson?, toItems?_eq_some_iff.mpr hjsons]⟩
  | .mapping pairs =>
      have hpairs : ∀ pair ∈ pairs, ∃ member, IsMember pair member := fun pair hpair => by
        obtain ⟨name, hname⟩ := h pair.1 (.here hpair)
        obtain ⟨json, hjson⟩ := exists_toJson?_of_keys pair.2 fun key hkey => h key (.inValue hpair hkey)
        exact ⟨(name, json), hname, hjson⟩
      obtain ⟨members, hmembers⟩ := exists_forall₂_of_forall hpairs
      exact ⟨.object members, by simp [toJson?, toMembers?_eq_some_iff.mpr hmembers]⟩
  | .tagged tag content =>
      obtain ⟨json, hjson⟩ := exists_toJson?_of_keys content fun key hkey => h key (.underTag hkey)
      exact ⟨.object [(shownTag tag, json)], by simp [toJson?, hjson]⟩
termination_by sizeOf value
decreasing_by
  · have hlt := List.sizeOf_lt_of_mem hitem
    simp only [Value.sequence.sizeOf_spec]
    omega
  · have hlt := List.sizeOf_lt_of_mem hpair
    have hentry : sizeOf pair.2 < sizeOf pair := by
      obtain ⟨key, entry⟩ := pair
      show sizeOf entry < sizeOf (key, entry)
      rw [Prod.mk.sizeOf_spec]
      omega
    simp only [Value.mapping.sizeOf_spec]
    omega
  · simp only [Value.tagged.sizeOf_spec]
    omega

-- A value can be written as JSON exactly when every key in it, at any depth, has a text.
theorem exists_toJson?_iff (value : Value) :
    (∃ json, toJson? value = some json) ↔ ∀ key, HasKey value key → ∃ text, Prints key text := by
  constructor
  · rintro ⟨json, hjson⟩ key hkey
    exact prints_of_hasKey hkey hjson
  · exact exists_toJson?_of_keys value

section Last

variable {pairs : List (Value × Value)} {members : List (String × Json)} {name : String}

theorem isLast_cons_iff {pair : Value × Value} {value : Value} :
    IsLast (pair :: pairs) name value ↔
      IsLast pairs name value ∨
        (pair.2 = value ∧ Prints pair.1 name ∧ ∀ other ∈ pairs, ¬ Prints other.1 name) := by
  constructor
  · rintro ⟨_ | ⟨first, before⟩, key, after, hpairs, hkey, hafter⟩
    · obtain ⟨rfl, rfl⟩ := List.cons.inj hpairs
      exact .inr ⟨rfl, hkey, hafter⟩
    · obtain ⟨-, hrest⟩ := List.cons.inj hpairs
      exact .inl ⟨before, key, after, hrest, hkey, hafter⟩
  · rintro (⟨before, key, after, rfl, hkey, hafter⟩ | ⟨rfl, hkey, hafter⟩)
    · exact ⟨pair :: before, key, after, rfl, hkey, hafter⟩
    · exact ⟨[], pair.1, pairs, rfl, hkey, hafter⟩

theorem lookup_eq_none_iff (h : List.Forall₂ IsMember pairs members) :
    Json.lookup name members = none ↔ ∀ pair ∈ pairs, ¬ Prints pair.1 name := by
  have hnone : Json.lookup name members = none ↔ ∀ member ∈ members, member.1 ≠ name := by
    simp [Json.lookup]
  rw [hnone]
  constructor
  · intro hmembers pair hpair hprints
    obtain ⟨member, hmember, hname, -⟩ := exists_of_forall₂_of_mem h hpair
    exact hmembers member hmember (hname.unique hprints)
  · intro hpairs member hmember hname
    obtain ⟨pair, hpair, hprints, -⟩ := exists_of_forall₂_of_mem h.flip hmember
    exact hpairs pair hpair (hname ▸ hprints)

-- Looking a name up among the members finds what the last entry under that name became.
theorem lookup_eq_some_iff_isLast (h : List.Forall₂ IsMember pairs members) {json : Json} :
    Json.lookup name members = some json ↔
      ∃ value, IsLast pairs name value ∧ toJson? value = some json := by
  induction h with
  | nil =>
      constructor
      · exact nofun
      · rintro ⟨value, ⟨before, key, after, hpairs, -⟩, -⟩
        cases before <;> cases hpairs
  | @cons pair member pairs members hfirst hrest ih =>
      have hlookup : Json.lookup name (member :: members) =
          (Json.lookup name members).or (if member.1 = name then some member.2 else none) := by
        by_cases hname : member.1 = name <;> simp [Json.lookup, hname]
      have hsame : member.1 = name ↔ Prints pair.1 name :=
        ⟨fun hname => hname ▸ hfirst.1, fun hprints => hfirst.1.unique hprints⟩
      rw [hlookup, Option.or_eq_some_iff, ih, lookup_eq_none_iff hrest]
      simp only [isLast_cons_iff, Option.ite_none_right_eq_some, hsame, Option.some.injEq]
      constructor
      · rintro (⟨value, hlast, hjson⟩ | ⟨hnone, hprints, rfl⟩)
        · exact ⟨value, .inl hlast, hjson⟩
        · exact ⟨pair.2, .inr ⟨rfl, hprints, hnone⟩, hfirst.2⟩
      · rintro ⟨value, hlast | ⟨rfl, hprints, hnone⟩, hjson⟩
        · exact .inl ⟨value, hlast, hjson⟩
        · rw [hfirst.2] at hjson
          exact .inr ⟨hnone, hprints, Option.some.inj hjson⟩

end Last

end DocModule.Yaml.Value
