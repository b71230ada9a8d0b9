import DocModule.Block.Wire
import DocModule.Proofs.Json.Lookup

namespace DocModule

namespace Outcome

variable {ε ε' α β : Type}

theorem map_eq_ok_iff {result : Except ε α} {f : α → β} {b : β} :
    result.map f = .ok b ↔ ∃ a, result = .ok a ∧ f a = b := by
  cases result <;> simp [Except.map]

theorem map_eq_error_iff {result : Except ε α} {f : α → β} {error : ε} :
    result.map f = .error error ↔ result = .error error := by
  cases result <;> simp [Except.map]

theorem mapError_eq_ok_iff {result : Except ε α} {f : ε → ε'} {a : α} :
    result.mapError f = .ok a ↔ result = .ok a := by
  cases result <;> simp [Except.mapError]

theorem mapError_eq_error_iff {result : Except ε α} {f : ε → ε'} {error : ε'} :
    result.mapError f = .error error ↔ ∃ cause, result = .error cause ∧ f cause = error := by
  cases result <;> simp [Except.mapError]

theorem bind_eq_ok_iff {result : Except ε α} {next : α → Except ε β} {b : β} :
    (result >>= next) = .ok b ↔ ∃ a, result = .ok a ∧ next a = .ok b := by
  cases result <;> simp [bind, Except.bind]

theorem bind_eq_error_iff {result : Except ε α} {next : α → Except ε β} {error : ε} :
    (result >>= next) = .error error ↔
      result = .error error ∨ ∃ a, result = .ok a ∧ next a = .error error := by
  cases result <;> simp [bind, Except.bind]

end Outcome

namespace Json

-- The values that have a text, and the text that each of them has.
inductive Prints : Json → String → Prop
  | string (text : String) : Prints (.string text) text
  | number (value : Number) : Prints (.number value) value.text
  | bool (value : Bool) : Prints (.bool value) (boolText value)

theorem scalarText?_eq_some_iff {value : Json} {text : String} :
    value.scalarText? = some text ↔ Prints value text := by
  constructor
  · intro h
    cases value with
    | string value => exact Option.some.inj h ▸ .string value
    | number value => exact Option.some.inj h ▸ .number value
    | bool value => exact Option.some.inj h ▸ .bool value
    | null | array _ | object _ => cases h
  · rintro (_ | _ | _) <;> rfl

end Json

namespace Block

-- Properties that hold exactly the members with a text. The last member of a name counts.
def Keeps (members : List (String × Json)) (props : Props) : Prop :=
  ∀ name text, props.get? name = some text ↔
    ∃ value, Json.lookup name members = some value ∧ Json.Prints value text

theorem keeps_iff {members : List (String × Json)} {props : Props} :
    Keeps members props ↔ Frontmatter.propsOfMembers members = props := by
  have hget : ∀ name text, (Frontmatter.propsOfMembers members).get? name = some text ↔
      ∃ value, Json.lookup name members = some value ∧ Json.Prints value text := by
    intro name text
    rw [Frontmatter.get?_propsOfMembers, Option.bind_eq_some_iff]
    simp only [Json.scalarText?_eq_some_iff]
  constructor
  · intro h
    apply Props.ext_get?
    intro name
    apply Option.ext
    intro text
    rw [hget, h]
  · rintro rfl
    exact hget

-- The language that an entry gives, if any.
def HoldsLanguage (entry : Json) : Option String → Prop
  | none => entry.field? "language" = none ∨ entry.field? "language" = some .null
  | some language => entry.field? "language" = some (.string language)

-- The properties that an entry gives: by an object, by a text that can be read, or none at all.
def HoldsProps (entry : Json) (props : Props) : Prop :=
  (∃ members, entry.field? "props" = some (.object members) ∧ Keeps members props) ∨
  (entry.field? "props" = none ∧
    ∃ src, entry.field? "src" = some (.string src) ∧ Frontmatter.parse src = .ok props) ∨
  (entry.field? "props" = none ∧ (∀ src, entry.field? "src" ≠ some (.string src)) ∧ props = ∅)

-- The fields of an entry are those of a block.
def Holds (entry : Json) : Block → Prop
  | .frontmatter props => HoldsProps entry props
  | .importing src | .exporting src | .markup src | .comment src =>
      entry.field? "src" = some (.string src)
  | .prose value => entry.field? "value" = some (.string value)
  | .code src language => entry.field? "src" = some (.string src) ∧ HoldsLanguage entry language

end Block

-- What a kind of block asks of one of its fields: a text, a text that may be left out or be null,
-- or an object that may be left out.
inductive Demand where
  | text
  | optionalText
  | map
  deriving DecidableEq

namespace Demand

def shape : Demand → Shape
  | .text | .optionalText => .text
  | .map => .map

def Meets : Demand → Json → Prop
  | .text, value => ∃ text, value = .string text
  | .optionalText, value => value = .null ∨ ∃ text, value = .string text
  | .map, value => ∃ members, value = .object members

end Demand

def Kind.demands : Kind → List (String × Demand)
  | .frontmatter => [("props", .map)]
  | .importing | .exporting | .markup | .comment => [("src", .text)]
  | .prose => [("value", .text)]
  | .code => [("src", .text), ("language", .optionalText)]

namespace Block

-- A field that is there, with a value of another type than it has to have.
def IsWrong (entry : Json) (field : String × Demand) (found : Json) : Prop :=
  entry.field? field.1 = some found ∧ ¬ field.2.Meets found

-- Why an entry of a known kind is refused: its text of properties cannot be read, a field has a
-- value of another type and none with a smaller name has one, or a text is missing and no field has
-- one.
inductive Refuses (entry : Json) : Kind → Error → Prop
  | source {src : String} {error : Frontmatter.Error} :
      entry.field? "props" = none → entry.field? "src" = some (.string src) →
      Frontmatter.parse src = .error error → Refuses entry .frontmatter (.frontmatter error)
  | wrongType {kind : Kind} {field : String × Demand} {found : Json} :
      field ∈ kind.demands → IsWrong entry field found →
      (∀ other ∈ kind.demands, (∃ value, IsWrong entry other value) → field.1 ≤ other.1) →
      Refuses entry kind (.invalidBlock (.wrongType found field.2.shape))
  | missing {kind : Kind} {name : String} :
      (name, .text) ∈ kind.demands → entry.field? name = none →
      (∀ other ∈ kind.demands, ¬ ∃ value, IsWrong entry other value) →
      Refuses entry kind (.invalidBlock (.missing name))

open Outcome

section Fields

variable {entry : Json}

theorem textField_eq_ok_iff {name text : String} :
    textField name entry = .ok text ↔ entry.field? name = some (.string text) := by
  rw [textField]
  rcases entry.field? name with _ | (_ | _ | _ | _ | _ | _) <;> simp

theorem textField_eq_error_iff {name : String} {fault : Fault} :
    textField name entry = .error fault ↔
      (∃ found, IsWrong entry (name, .text) found ∧ fault = .wrongType found .text) ∨
      (entry.field? name = none ∧ fault = .missing name) := by
  rw [textField]
  simp only [IsWrong, Demand.Meets]
  rcases entry.field? name with _ | (_ | _ | _ | _ | _ | _) <;> simp [eq_comm]

theorem optionalTextField_eq_ok_iff {language : Option String} :
    optionalTextField "language" entry = .ok language ↔ HoldsLanguage entry language := by
  rw [optionalTextField]
  cases language <;> simp only [HoldsLanguage] <;>
    rcases entry.field? "language" with _ | (_ | _ | _ | _ | _ | _) <;> simp

theorem optionalTextField_eq_error_iff {name : String} {fault : Fault} :
    optionalTextField name entry = .error fault ↔
      ∃ found, IsWrong entry (name, .optionalText) found ∧ fault = .wrongType found .text := by
  rw [optionalTextField]
  simp only [IsWrong, Demand.Meets]
  rcases entry.field? name with _ | (_ | _ | _ | _ | _ | _) <;> simp [eq_comm]

-- A text that may be left out fails only by a value of another type.
theorem exists_optionalTextField_iff {name : String} :
    (∃ text, optionalTextField name entry = .ok text) ↔
      ¬ ∃ found, IsWrong entry (name, .optionalText) found := by
  cases h : optionalTextField name entry with
  | error fault =>
      obtain ⟨found, hwrong, -⟩ := optionalTextField_eq_error_iff.mp h
      simpa using ⟨found, hwrong⟩
  | ok text =>
      refine iff_of_true ⟨text, rfl⟩ ?_
      rintro ⟨found, hwrong⟩
      rw [optionalTextField_eq_error_iff.mpr ⟨found, hwrong, rfl⟩] at h
      cases h

theorem propsField_eq_ok_iff {props : Props} :
    propsField entry = .ok props ↔ HoldsProps entry props := by
  rw [propsField, HoldsProps]
  simp only [keeps_iff]
  rcases entry.field? "props" with _ | (_ | _ | _ | _ | _ | members)
  case none =>
    rcases entry.field? "src" with _ | (_ | _ | _ | src | _ | _)
    case some.string => cases hparse : Frontmatter.parse src <;> simp [Except.mapError, hparse]
    all_goals simp [eq_comm]
  all_goals simp

theorem propsField_eq_error_iff {error : Error} :
    propsField entry = .error error ↔
      (∃ found, IsWrong entry ("props", .map) found ∧
        error = .invalidBlock (.wrongType found .map)) ∨
      (entry.field? "props" = none ∧ ∃ src fault, entry.field? "src" = some (.string src) ∧
        Frontmatter.parse src = .error fault ∧ error = .frontmatter fault) := by
  rw [propsField]
  simp only [IsWrong, Demand.Meets]
  rcases entry.field? "props" with _ | (_ | _ | _ | _ | _ | members)
  case none =>
    rcases entry.field? "src" with _ | (_ | _ | _ | src | _ | _)
    case some.string =>
      cases hparse : Frontmatter.parse src <;> simp [Except.mapError, hparse, eq_comm]
    all_goals simp
  all_goals simp [eq_comm]

-- A kind that asks for one text fails by that field alone.
theorem refuses_iff_of_text {kind : Kind} {name : String}
    (hdemands : kind.demands = [(name, .text)]) {error : Error} :
    Refuses entry kind error ↔
      ∃ fault, textField name entry = .error fault ∧ .invalidBlock fault = error := by
  simp only [textField_eq_error_iff]
  constructor
  · intro h
    cases h with
    | source => cases hdemands
    | @wrongType _ field found hmem hwrong _ =>
        rw [hdemands, List.mem_singleton] at hmem
        subst hmem
        exact ⟨_, .inl ⟨found, hwrong, rfl⟩, rfl⟩
    | @missing _ other hmem hnone _ =>
        rw [hdemands, List.mem_singleton, Prod.mk.injEq] at hmem
        obtain ⟨rfl, -⟩ := hmem
        exact ⟨_, .inr ⟨hnone, rfl⟩, rfl⟩
  · rintro ⟨_, ⟨found, hwrong, rfl⟩ | ⟨hnone, rfl⟩, rfl⟩
    · have hmem : (name, Demand.text) ∈ kind.demands := by simp [hdemands]
      exact .wrongType hmem hwrong (by simp [hdemands])
    · have hmem : (name, Demand.text) ∈ kind.demands := by simp [hdemands]
      exact .missing hmem hnone (by simp [hdemands, IsWrong, hnone])

theorem refuses_frontmatter_iff {error : Error} :
    Refuses entry .frontmatter error ↔ propsField entry = .error error := by
  rw [propsField_eq_error_iff]
  constructor
  · intro h
    cases h with
    | source hprops hsrc hparse => exact .inr ⟨hprops, _, _, hsrc, hparse, rfl⟩
    | @wrongType _ field found hmem hwrong _ =>
        obtain rfl := List.mem_singleton.mp hmem
        exact .inl ⟨found, hwrong, rfl⟩
    | missing hmem => simp [Kind.demands] at hmem
  · rintro (⟨found, hwrong, rfl⟩ | ⟨hprops, src, fault, hsrc, hparse, rfl⟩)
    · have hmem : ("props", Demand.map) ∈ Kind.frontmatter.demands := List.mem_singleton_self _
      exact .wrongType hmem hwrong (by simp [Kind.demands])
    · exact .source hprops hsrc hparse

-- The fault of an entry of code. The language comes before the source, so it is looked at first.
theorem refuses_code_iff {error : Error} :
    Refuses entry .code error ↔ ∃ fault, (optionalTextField "language" entry = .error fault ∨
      ∃ language, optionalTextField "language" entry = .ok language ∧
        textField "src" entry = .error fault) ∧ .invalidBlock fault = error := by
  simp only [exists_and_right, exists_optionalTextField_iff]
  simp only [optionalTextField_eq_error_iff, textField_eq_error_iff]
  have hsrc : ("src", Demand.text) ∈ Kind.code.demands := by decide
  have hlanguage : ("language", Demand.optionalText) ∈ Kind.code.demands := by decide
  have hafter : ¬ "src" ≤ "language" := by decide
  constructor
  · intro h
    cases h with
    | @wrongType _ field found hmem hwrong hleast =>
        have hfield : field = ("src", .text) ∨ field = ("language", .optionalText) := by
          simpa [Kind.demands] using hmem
        rcases hfield with rfl | rfl
        · have hright := fun hother => hafter (hleast _ hlanguage hother)
          exact ⟨_, .inr ⟨hright, .inl ⟨found, hwrong, rfl⟩⟩, rfl⟩
        · exact ⟨_, .inl ⟨found, hwrong, rfl⟩, rfl⟩
    | @missing _ name hmem hnone hright =>
        have hname : name = "src" := by simpa [Kind.demands] using hmem
        subst hname
        exact ⟨_, .inr ⟨hright _ hlanguage, .inr ⟨hnone, rfl⟩⟩, rfl⟩
  · rintro ⟨_, ⟨found, hwrong, rfl⟩ | ⟨hright, ⟨found, hwrong, rfl⟩ | ⟨hnone, rfl⟩⟩, rfl⟩
    · exact .wrongType hlanguage hwrong (by simp [Kind.demands])
    · exact .wrongType hsrc hwrong (by simp [Kind.demands, not_exists.mp hright])
    · have hsrcRight : ∀ value, ¬ IsWrong entry ("src", .text) value := by simp [IsWrong, hnone]
      exact .missing hsrc hnone (by simp [Kind.demands, hsrcRight, not_exists.mp hright])

end Fields

variable {entry : Json}

theorem ofEntry_eq_ok_iff {kind : Kind} {block : Block} :
    ofEntry kind entry = .ok block ↔ block.kind = kind ∧ Holds entry block := by
  cases kind with
  | frontmatter =>
      simp only [ofEntry, map_eq_ok_iff, propsField_eq_ok_iff]
      cases block <;> simp [Block.kind, Holds]
  | code =>
      simp only [ofEntry, fromFields, mapError_eq_ok_iff, bind_eq_ok_iff,
        optionalTextField_eq_ok_iff, textField_eq_ok_iff, pure, Except.pure, Except.ok.injEq]
      cases block <;> simp [Block.kind, Holds]
      exact and_comm
  | importing | exporting | prose | markup | comment =>
      simp only [ofEntry, fromFields, mapError_eq_ok_iff, map_eq_ok_iff, textField_eq_ok_iff]
      cases block <;> simp [Block.kind, Holds]

theorem ofEntry_eq_error_iff {kind : Kind} {error : Error} :
    ofEntry kind entry = .error error ↔ Refuses entry kind error := by
  cases kind with
  | frontmatter => rw [refuses_frontmatter_iff, ofEntry, map_eq_error_iff]
  | code =>
      rw [refuses_code_iff, ofEntry, fromFields, mapError_eq_error_iff]
      simp only [bind_eq_error_iff, pure, Except.pure, reduceCtorEq, and_false, exists_false,
        or_false]
  | importing | exporting | prose | markup | comment =>
      rw [refuses_iff_of_text rfl, ofEntry, fromFields, mapError_eq_error_iff]
      simp only [map_eq_error_iff]

end Block

namespace Entry

-- An object with a text as its tag.
def HasTag (entry : Json) (tag : String) : Prop :=
  ∃ members, entry = .object members ∧ Json.lookup "type" members = some (.string tag)

section Tag

variable {entry : Json} {tag : String}

theorem tag_eq_some_iff :
    (entry.field? "type").bind Json.string? = some tag ↔ HasTag entry tag := by
  have hstring : ∀ value : Json, value.string? = some tag ↔ value = .string tag := by
    intro value
    cases value <;> simp [Json.string?]
  rw [Option.bind_eq_some_iff]
  cases entry <;> simp [Json.field?, HasTag, hstring]

theorem ofJson_of_untagged (h : ¬ ∃ tag, HasTag entry tag) :
    ofJson entry = .error (.invalidBlock .untagged) := by
  simp only [← tag_eq_some_iff, ← Option.isSome_iff_exists, Option.not_isSome_iff_eq_none] at h
  rw [ofJson, h]

theorem ofJson_of_unknown (h : HasTag entry tag) (hkind : Kind.ofTag? tag = none) :
    ofJson entry = .ok (.unknown tag) := by
  simp only [ofJson, tag_eq_some_iff.mpr h, hkind]

theorem ofJson_of_known {read : String → Option Yaml.Value} {kind : Kind} (h : HasTag entry tag)
    (hkind : Kind.ofTag? tag = some kind) :
    ofJson entry read = (Block.ofEntry kind entry read).map .known := by
  simp only [ofJson, tag_eq_some_iff.mpr h, hkind]

end Tag

section Exact

variable (entry : Json)

-- The tag decides how an entry is read.
theorem ofJson_cases :
    ((¬ ∃ tag, HasTag entry tag) ∧ ofJson entry = .error (.invalidBlock .untagged)) ∨
    (∃ tag, HasTag entry tag ∧ Kind.ofTag? tag = none ∧ ofJson entry = .ok (.unknown tag)) ∨
    (∃ tag kind, HasTag entry tag ∧ Kind.ofTag? tag = some kind ∧
      ofJson entry = (Block.ofEntry kind entry).map .known) := by
  by_cases htag : ∃ tag, HasTag entry tag
  · obtain ⟨tag, htag⟩ := htag
    cases hkind : Kind.ofTag? tag with
    | none => exact .inr (.inl ⟨tag, htag, hkind, ofJson_of_unknown htag hkind⟩)
    | some kind => exact .inr (.inr ⟨tag, kind, htag, hkind, ofJson_of_known htag hkind⟩)
  · exact .inl ⟨htag, ofJson_of_untagged htag⟩

theorem ofJson_eq_unknown_iff (tag : String) :
    ofJson entry = .ok (.unknown tag) ↔ HasTag entry tag ∧ Kind.ofTag? tag = none := by
  constructor
  · intro h
    rcases ofJson_cases entry with
      ⟨-, hcase⟩ | ⟨other, htag, hkind, hcase⟩ | ⟨other, kind, -, -, hcase⟩
    · rw [hcase] at h
      cases h
    · rw [hcase, Except.ok.injEq, Entry.unknown.injEq] at h
      exact h ▸ ⟨htag, hkind⟩
    · rw [hcase, Outcome.map_eq_ok_iff] at h
      obtain ⟨block, -, hblock⟩ := h
      cases hblock
  · rintro ⟨htag, hkind⟩
    exact ofJson_of_unknown htag hkind

theorem ofJson_eq_known_iff (block : Block) :
    ofJson entry = .ok (.known block) ↔
      ∃ tag, HasTag entry tag ∧ Kind.ofTag? tag = some block.kind ∧ Block.Holds entry block := by
  constructor
  · intro h
    rcases ofJson_cases entry with ⟨-, hcase⟩ | ⟨tag, -, -, hcase⟩ | ⟨tag, kind, htag, hkind, hcase⟩
    · rw [hcase] at h
      cases h
    · rw [hcase] at h
      cases h
    · rw [hcase, Outcome.map_eq_ok_iff] at h
      obtain ⟨found, hfound, hblock⟩ := h
      obtain rfl := Entry.known.inj hblock
      obtain ⟨rfl, hholds⟩ := Block.ofEntry_eq_ok_iff.mp hfound
      exact ⟨tag, htag, hkind, hholds⟩
  · rintro ⟨tag, htag, hkind, hholds⟩
    rw [ofJson_of_known htag hkind, Outcome.map_eq_ok_iff]
    exact ⟨block, Block.ofEntry_eq_ok_iff.mpr ⟨rfl, hholds⟩, rfl⟩

theorem ofJson_eq_error_iff (error : Error) :
    ofJson entry = .error error ↔
      ((¬ ∃ tag, HasTag entry tag) ∧ error = .invalidBlock .untagged) ∨
      ∃ tag kind, HasTag entry tag ∧ Kind.ofTag? tag = some kind ∧
        Block.Refuses entry kind error := by
  constructor
  · intro h
    rcases ofJson_cases entry with
      ⟨htag, hcase⟩ | ⟨tag, -, -, hcase⟩ | ⟨tag, kind, htag, hkind, hcase⟩
    · rw [hcase] at h
      exact .inl ⟨htag, (Except.error.inj h).symm⟩
    · rw [hcase] at h
      cases h
    · rw [hcase, Outcome.map_eq_error_iff, Block.ofEntry_eq_error_iff] at h
      exact .inr ⟨tag, kind, htag, hkind, h⟩
  · rintro (⟨htag, rfl⟩ | ⟨tag, kind, htag, hkind, hrefuses⟩)
    · exact ofJson_of_untagged htag
    · rw [ofJson_of_known htag hkind, Outcome.map_eq_error_iff, Block.ofEntry_eq_error_iff]
      exact hrefuses

theorem ofJson_eq_untagged_iff :
    ofJson entry = .error (.invalidBlock .untagged) ↔ ¬ ∃ tag, HasTag entry tag := by
  rw [ofJson_eq_error_iff]
  constructor
  · rintro (⟨htag, -⟩ | ⟨tag, kind, -, -, hrefuses⟩)
    · exact htag
    · cases hrefuses
  · intro htag
    exact .inl ⟨htag, rfl⟩

-- What becomes of an entry, in every case: without a text for a tag it is refused, with a tag of no
-- known kind it is kept, and otherwise it gives the one block of its kind that its fields hold, or
-- else is refused for its text of properties, for its first field of another type, or for a missing
-- text.
theorem ofJson_decodes_exactly :
    (ofJson entry = .error (.invalidBlock .untagged) ↔ ¬ ∃ tag, HasTag entry tag) ∧
    (∀ tag, ofJson entry = .ok (.unknown tag) ↔ HasTag entry tag ∧ Kind.ofTag? tag = none) ∧
    (∀ block, ofJson entry = .ok (.known block) ↔
      ∃ tag, HasTag entry tag ∧ Kind.ofTag? tag = some block.kind ∧ Block.Holds entry block) ∧
    (∀ error, ofJson entry = .error error ↔
      ((¬ ∃ tag, HasTag entry tag) ∧ error = .invalidBlock .untagged) ∨
      ∃ tag kind, HasTag entry tag ∧ Kind.ofTag? tag = some kind ∧
        Block.Refuses entry kind error) :=
  ⟨ofJson_eq_untagged_iff entry, ofJson_eq_unknown_iff entry, ofJson_eq_known_iff entry,
    ofJson_eq_error_iff entry⟩

end Exact

-- The report of a value of another type describes the value and leaves out the name of its field, so
-- a wrong language and a wrong source are told apart by nothing.
theorem ofJson_wrongType_unnamed :
    let wrongLanguage := Json.object
      [("type", .string "code"), ("src", .string "x"), ("language", .number (.int 0))]
    let wrongSource := Json.object [("type", .string "code"), ("src", .number (.int 0))]
    (Block.IsWrong wrongLanguage ("language", .optionalText) (.number (.int 0)) ∧
      ¬ ∃ found, Block.IsWrong wrongLanguage ("src", .text) found) ∧
    (Block.IsWrong wrongSource ("src", .text) (.number (.int 0)) ∧
      ¬ ∃ found, Block.IsWrong wrongSource ("language", .optionalText) found) ∧
    ∃ error, ofJson wrongLanguage = .error error ∧ ofJson wrongSource = .error error ∧
      ¬ "language".toList <:+: error.message.toList ∧ ¬ "src".toList <:+: error.message.toList := by
  intro wrongLanguage wrongSource
  have hlanguage : wrongLanguage.field? "language" = some (.number (.int 0)) := rfl
  have hright : wrongLanguage.field? "src" = some (.string "x") := rfl
  have hsource : wrongSource.field? "src" = some (.number (.int 0)) := rfl
  have hnone : wrongSource.field? "language" = none := rfl
  refine ⟨⟨?_, ?_⟩, ⟨?_, ?_⟩, .invalidBlock (.wrongType (.number (.int 0)) .text), rfl, rfl, ?_, ?_⟩
  · simp [Block.IsWrong, Demand.Meets, hlanguage]
  · simp [Block.IsWrong, Demand.Meets, hright]
  · simp [Block.IsWrong, Demand.Meets, hsource]
  · simp [Block.IsWrong, hnone]
  · decide +kernel
  · decide +kernel

-- A language of another type counts before a source that is missing, and other fields do not count.
example : ofJson (.object [("props", .null), ("language", .bool true), ("type", .string "code")]) =
    .error (.invalidBlock (.wrongType (.bool true) .text)) := rfl

end Entry

end DocModule
