import DocModule.Proofs.Block.Decoding
import DocModule.Proofs.Yaml.BlankText
import DocModule.Proofs.Yaml.Conversion

namespace DocModule.Frontmatter

open Text Yaml

-- The properties that the entries of a mapping give. Under each name the last entry counts, and it
-- takes away what an earlier one has given if it has no text itself.
structure TakesFrom (pairs : List (Value × Value)) (props : Props) : Prop where
  holds : ∀ name text, props.get? name = some text ↔
    ∃ last, Value.IsLast pairs name last ∧ last.Prints text
  lacks : ∀ name last, Value.IsLast pairs name last → last.Textless → props.get? name = none

-- The values that give no properties, but for strings.
inductive NoProps : Value → Prop
  | bool (value : Bool) : NoProps (.bool value)
  | int (value : Int) : NoProps (.int value)
  | float (value : Decimal.Binary64) : NoProps (.float value)
  | sequence (items : List Value) : NoProps (.sequence items)

-- An entry of a block sequence that gives its properties by a text.
def GivesSource (entry : Json) (src : String) : Prop :=
  Entry.HasTag entry "yaml" ∧ entry.field? "props" = none ∧ entry.field? "src" = some (.string src)

-- An entry that gives them by an object with the same value under each name as the given members.
def GivesProps (entry : Json) (members : List (String × Json)) : Prop :=
  Entry.HasTag entry "yaml" ∧ ∃ others, entry.field? "props" = some (.object others) ∧
    ∀ name, Json.lookup name others = Json.lookup name members

section Members

variable {pairs : List (Value × Value)} {members : List (String × Json)}

theorem takesFrom_propsOfMembers (h : List.Forall₂ Value.IsMember pairs members) :
    TakesFrom pairs (propsOfMembers members) := by
  constructor
  · intro name text
    rw [get?_propsOfMembers, Option.bind_eq_some_iff]
    constructor
    · rintro ⟨json, hlookup, htext⟩
      obtain ⟨last, hlast, hjson⟩ := (Value.lookup_eq_some_iff_isLast h).mp hlookup
      exact ⟨last, hlast, Value.exists_scalarText?_iff.mp ⟨json, hjson, htext⟩⟩
    · rintro ⟨last, hlast, hprints⟩
      obtain ⟨json, hjson, htext⟩ := Value.exists_scalarText?_iff.mpr hprints
      exact ⟨json, (Value.lookup_eq_some_iff_isLast h).mpr ⟨last, hlast, hjson⟩, htext⟩
  · intro name last hlast hless
    obtain ⟨before, key, after, rfl, -⟩ := id hlast
    obtain ⟨member, -, -, hjson⟩ := Value.exists_of_forall₂_of_mem h (List.mem_append_right before
      List.mem_cons_self)
    have hlookup := (Value.lookup_eq_some_iff_isLast h).mpr ⟨last, hlast, hjson⟩
    rw [get?_propsOfMembers, hlookup, Option.bind_some]
    cases htext : member.2.scalarText? with
    | none => rfl
    | some text =>
        exact absurd (Value.exists_scalarText?_iff.mp ⟨member.2, hjson, htext⟩) hless.not_prints

theorem propsOfMembers_congr {others : List (String × Json)}
    (h : ∀ name, Json.lookup name others = Json.lookup name members) :
    propsOfMembers others = propsOfMembers members := by
  apply Props.ext_get?
  intro name
  rw [get?_propsOfMembers, get?_propsOfMembers, h]

end Members

section Parsing

variable {dialect : Dialect} {src : String} {value : Value}

theorem parse_of_blank {read : String → Option Value} (h : trim src.toList = []) :
    parse src read = .ok ∅ :=
  if_pos h

theorem parse_of_toJson? {read : String → Option Value} (hsrc : trim src.toList ≠ [])
    (hvalue : read src = some value) {json : Json} (hjson : value.toJson? = some json) :
    parse src read = propsOfJson json := by
  simp only [parse, if_neg hsrc, hvalue, Option.bind_some, hjson]

-- A text of blanks holds null or a string, so a text that holds anything else is not blank.
theorem trim_ne_nil_of_value (hvalue : dialect.read src = some value)
    (hother : ¬ (value = .null ∨ ∃ text, value = .string text)) : trim src.toList ≠ [] := by
  intro hblank
  exact hother (dialect.blank hblank hvalue)

theorem parse_of_object (hvalue : dialect.read src = some value) {members : List (String × Json)}
    (hjson : value.toJson? = some (.object members)) :
    parse src dialect.read = .ok (propsOfMembers members) := by
  have hsrc : trim src.toList ≠ [] := by
    apply trim_ne_nil_of_value hvalue
    rintro (rfl | ⟨text, rfl⟩) <;> cases hjson
  exact parse_of_toJson? hsrc hvalue hjson

theorem parse_of_mapping {pairs : List (Value × Value)}
    (hvalue : dialect.read src = some (.mapping pairs))
    (hkeys : ∀ key, Value.HasKey (.mapping pairs) key → ∃ text, key.Prints text) :
    ∃ props, parse src dialect.read = .ok props ∧ TakesFrom pairs props := by
  obtain ⟨json, hjson⟩ := (Value.exists_toJson?_iff _).mpr hkeys
  obtain ⟨members, hmembers, rfl⟩ :
      ∃ members, Value.toMembers? pairs = some members ∧ .object members = json := by
    simpa only [Value.toJson?, Option.bind_eq_bind, Option.bind_eq_some_iff, Option.some.injEq]
      using hjson
  exact ⟨propsOfMembers members, parse_of_object hvalue hjson,
    takesFrom_propsOfMembers (Value.toMembers?_eq_some_iff.mp hmembers)⟩

theorem parse_of_null (hvalue : dialect.read src = some value)
    (hjson : value.toJson? = some .null) : parse src dialect.read = .ok ∅ := by
  by_cases hsrc : trim src.toList = []
  · exact parse_of_blank hsrc
  · exact parse_of_toJson? hsrc hvalue hjson

theorem parse_of_string {text : String} (hsrc : trim src.toList ≠ [])
    (hvalue : dialect.read src = some (.string text)) :
    parse src dialect.read = .error .notMapping :=
  parse_of_toJson? hsrc hvalue rfl

theorem parse_of_noProps (hvalue : dialect.read src = some value)
    (hkeys : ∀ key, value.HasKey key → ∃ text, key.Prints text) (h : NoProps value) :
    parse src dialect.read = .error .notMapping := by
  have hsrc : trim src.toList ≠ [] := by
    apply trim_ne_nil_of_value hvalue
    rintro (rfl | ⟨text, rfl⟩) <;> cases h
  obtain ⟨json, hjson⟩ := (Value.exists_toJson?_iff value).mpr hkeys
  rw [parse_of_toJson? hsrc hvalue hjson]
  cases h with
  | bool | int | float =>
      obtain rfl := Option.some.inj hjson
      rfl
  | sequence items =>
      simp only [Value.toJson?, Option.bind_eq_bind, Option.bind_eq_some_iff, Option.some.injEq]
        at hjson
      obtain ⟨_, _, rfl⟩ := hjson
      rfl

theorem parse_of_unprinted (hvalue : dialect.read src = some value) {key : Value}
    (hkey : value.HasKey key) (hprints : ∀ text, ¬ key.Prints text) :
    parse src dialect.read = .error .unreadable := by
  have hsrc : trim src.toList ≠ [] := by
    apply trim_ne_nil_of_value hvalue
    rintro (rfl | ⟨text, rfl⟩) <;> cases hkey
  have hjson : value.toJson? = none := by
    by_contra hsome
    obtain ⟨json, hjson⟩ := Option.ne_none_iff_exists'.mp hsome
    obtain ⟨text, htext⟩ := Value.prints_of_hasKey hkey hjson
    exact hprints text htext
  simp only [parse, if_neg hsrc, hvalue, Option.bind_some, hjson]

end Parsing

section Routes

variable {read : String → Option Value} {entry : Json}

theorem ofJson_of_givesSource {src : String} (h : GivesSource entry src) {props : Props}
    (hparse : parse src read = .ok props) :
    Entry.ofJson entry read = .ok (.known (.frontmatter props)) := by
  obtain ⟨htag, hprops, hsrc⟩ := h
  have hfield : Block.propsField entry read = .ok props := by
    simp only [Block.propsField, hprops, hsrc, hparse, Except.mapError]
  rw [Entry.ofJson_of_known htag rfl, Block.ofEntry, hfield]
  rfl

theorem ofJson_of_givesProps {members : List (String × Json)} (h : GivesProps entry members) :
    Entry.ofJson entry read = .ok (.known (.frontmatter (propsOfMembers members))) := by
  obtain ⟨htag, others, hprops, hsame⟩ := h
  have hfield : Block.propsField entry read = .ok (propsOfMembers members) := by
    simp only [Block.propsField, hprops, propsOfMembers_congr hsame]
  rw [Entry.ofJson_of_known htag rfl, Block.ofEntry, hfield]
  rfl

end Routes

-- What a text gives by the value that it holds, in any dialect, and so in the standard one that is
-- taken by default. A blank text gives no properties. A value with a key that has no text cannot be
-- converted. Otherwise the entries of a mapping give their texts, null gives none, and other values
-- without a tag are refused. Where the value becomes an object, it does not matter whether an entry
-- has the text or the object.
theorem parse_of_yaml (dialect : Dialect) (src : String) :
    (trim src.toList = [] → parse src dialect.read = .ok ∅) ∧
    ∀ value, dialect.read src = some value →
      ((∃ json, value.toJson? = some json) ↔ ∀ key, value.HasKey key → ∃ text, key.Prints text) ∧
      ((∃ key, value.HasKey key ∧ ∀ text, ¬ key.Prints text) →
        parse src dialect.read = .error .unreadable) ∧
      ((∀ key, value.HasKey key → ∃ text, key.Prints text) →
        (∀ pairs, value = .mapping pairs →
          ∃ props, parse src dialect.read = .ok props ∧ TakesFrom pairs props) ∧
        (value.toJson? = some .null → parse src dialect.read = .ok ∅) ∧
        (NoProps value → parse src dialect.read = .error .notMapping) ∧
        (∀ text, value = .string text → trim src.toList ≠ [] →
          parse src dialect.read = .error .notMapping)) ∧
      (∀ members, value.toJson? = some (.object members) →
        ∀ written given, GivesSource written src → GivesProps given members →
          ∃ props, Entry.ofJson written dialect.read = .ok (.known (.frontmatter props)) ∧
            Entry.ofJson given dialect.read = .ok (.known (.frontmatter props))) := by
  refine ⟨parse_of_blank, fun value hvalue => ⟨Value.exists_toJson?_iff value, ?_, ?_, ?_⟩⟩
  · rintro ⟨key, hkey, hprints⟩
    exact parse_of_unprinted hvalue hkey hprints
  · intro hkeys
    refine ⟨?_, parse_of_null hvalue, parse_of_noProps hvalue hkeys, ?_⟩
    · rintro pairs rfl
      exact parse_of_mapping hvalue hkeys
    · rintro text rfl hsrc
      exact parse_of_string hsrc hvalue
  · intro members hjson written given hwritten hgiven
    exact ⟨propsOfMembers members, ofJson_of_givesSource hwritten (parse_of_object hvalue hjson),
      ofJson_of_givesProps hgiven⟩

-- Two keys with one text: the sequence under the second takes away the text under the first.
theorem parse_of_yaml_collapsed_key :
    let src := "1: a\n'1': [b]\ntitle: x"
    let pairs : List (Value × Value) := [(.int 1, .string "a"),
      (.string "1", .sequence [.string "b"]), (.string "title", .string "x")]
    let written := Json.object [("type", .string "yaml"), ("src", .string src)]
    let given := Json.object [("type", .string "yaml"),
      ("props", .object [("1", .array [.string "b"]), ("title", .string "x")])]
    Value.parse? src = some (.mapping pairs) ∧
    (∀ key, Value.HasKey (.mapping pairs) key → ∃ text, key.Prints text) ∧
    (∃ props, parse src = .ok props ∧ props.get? "1" = none ∧ props.get? "title" = some "x") ∧
    ∃ props, Entry.ofJson written = .ok (.known (.frontmatter props)) ∧
      Entry.ofJson given = .ok (.known (.frontmatter props)) := by
  intro src pairs written given
  have hscan : Token.scan? src = some [.mappingStart, .key, .scalar true "1", .value,
      .scalar true "a", .key, .scalar false "1", .value, .flowSequenceStart, .scalar true "b",
      .flowSequenceEnd, .key, .scalar true "title", .value, .scalar true "x", .blockEnd] := by
    decide +kernel
  have hvalue : Value.parse? src = some (.mapping pairs) := by
    unfold Value.parse?
    rw [hscan]
    rfl
  obtain ⟨hconverts, -, hroot, hroutes⟩ := (parse_of_yaml .standard src).2 _ hvalue
  have hkeys := hconverts.mp ⟨_, rfl⟩
  obtain ⟨props, hparse, htakes⟩ := (hroot hkeys).1 pairs rfl
  have hone : Value.IsLast pairs "1" (.sequence [.string "b"]) := by
    refine ⟨[(.int 1, .string "a")], .string "1", [(.string "title", .string "x")], rfl,
      .string "1", ?_⟩
    intro pair hpair hprints
    obtain rfl := List.mem_singleton.mp hpair
    exact absurd (Value.keyText?_eq_some_iff.mpr hprints) (by decide)
  have htitle : Value.IsLast pairs "title" (.string "x") :=
    ⟨[(.int 1, .string "a"), (.string "1", .sequence [.string "b"])], .string "title", [], rfl,
      .string "title", nofun⟩
  refine ⟨hvalue, hkeys, ⟨props, hparse, htakes.lacks _ _ hone (.sequence _),
    (htakes.holds _ _).mpr ⟨_, htitle, .string "x"⟩⟩, hroutes _ rfl written given ?_ ?_⟩
  · exact ⟨⟨_, rfl, rfl⟩, rfl, rfl⟩
  · have hnumber : (Number.int 1).text = "1" := by decide
    refine ⟨⟨_, rfl, rfl⟩, _, rfl, ?_⟩
    intro name
    by_cases hfirst : "1" = name <;> by_cases hsecond : "title" = name <;>
      simp [Json.lookup, hnumber, hfirst, hsecond]

-- A blank text gives no properties even if it holds a string, as this one does.
example : Value.parse? "\u00a0" = some (.string "\u00a0") ∧ parse "\u00a0" = .ok ∅ :=
  ⟨rfl, rfl⟩

end DocModule.Frontmatter
