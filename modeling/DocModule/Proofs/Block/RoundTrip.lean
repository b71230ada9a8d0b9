import DocModule.Block.Encode
import DocModule.Proofs.Document.Entries
import DocModule.Proofs.Json.Lookup
import DocModule.Proofs.Json.RoundTrip
import Mathlib.Data.List.Forall2

namespace DocModule

theorem Kind.ofTag?_tag (kind : Kind) : ofTag? kind.tag = some kind := by
  cases kind <;> rfl

namespace Block

-- The members of an entry that stands for a block, with its tag in front. The properties of
-- frontmatter may be listed in any order.
inductive Members : Block → List (String × Json) → Prop
  | frontmatter {props : Props} {pairs : List (String × String)} : pairs.Perm props.entries →
      Members (.frontmatter props) [("type", .string "yaml"),
        ("props", .object (pairs.map fun pair => (pair.1, .string pair.2)))]
  | other {block : Block} : block.kind ≠ .frontmatter →
      Members block (("type", .string block.kind.tag) :: block.fields)

-- An entry that stands for a block, with its members in any order.
def IsWrittenAs (block : Block) (entry : Json) : Prop :=
  ∃ members others, Members block members ∧ others.Perm members ∧ entry = .object others

-- A text that stands for blocks: an array of their entries in order.
def AreWrittenAs (blocks : List Block) (text : String) : Prop :=
  ∃ items, List.Forall₂ IsWrittenAs blocks items ∧ text = (Json.array items).write

theorem members_toJson (block : Block) :
    Members block (("type", .string block.kind.tag) :: block.fields) := by
  cases block with
  | frontmatter props => exact .frontmatter (List.Perm.refl props.entries)
  | importing _ | exporting _ | prose _ | code _ _ | markup _ | comment _ => exact .other nofun

theorem isWrittenAs_toJson (block : Block) : block.IsWrittenAs block.toJson :=
  ⟨_, _, members_toJson block, List.Perm.refl _, rfl⟩

theorem areWrittenAs_toText (blocks : List Block) : AreWrittenAs blocks (toText blocks) := by
  refine ⟨blocks.map toJson, ?_, rfl⟩
  rw [List.forall₂_map_right_iff, List.forall₂_same]
  intro block _
  exact isWrittenAs_toJson block

variable {block : Block} {members : List (String × Json)}

theorem nodup_names_of_members (h : Members block members) : (members.map Prod.fst).Nodup := by
  cases h with
  | frontmatter _ => simp
  | other _ => cases block <;> simp [fields]

theorem plain_of_members (h : Members block members) (depth : Nat) :
    ∀ member ∈ members, Json.Plain (depth + 1) member.2 := by
  cases h with
  | @frontmatter props pairs _ =>
      have hprops : Json.Plain (depth + 1)
          (.object (pairs.map fun pair => (pair.1, .string pair.2))) := by
        refine .object fun member hmem => ?_
        obtain ⟨pair, _, rfl⟩ := List.mem_map.mp hmem
        exact .string pair.2
      simp [hprops, Json.Plain.string]
  | other _ =>
      cases block with
      | frontmatter props => contradiction
      | code src language =>
          cases language <;> simp [fields, Json.Plain.string, Json.Plain.null]
      | importing _ | exporting _ | prose _ | markup _ | comment _ =>
          simp [fields, Json.Plain.string]

-- Properties come back from their members, in whatever order these are listed.
theorem propsOfMembers_perm {props : Props} {pairs : List (String × String)}
    (h : pairs.Perm props.entries) :
    Frontmatter.propsOfMembers (pairs.map fun pair => (pair.1, .string pair.2)) = props := by
  have hnames : ((pairs.map fun pair => (pair.1, Json.string pair.2)).map Prod.fst).Nodup := by
    rw [List.map_map]
    exact ((h.map Prod.fst).nodup_iff).mpr props.nodup_names
  apply Props.ext_get?
  intro name
  apply Option.ext
  intro text
  rw [Frontmatter.get?_propsOfMembers, Option.bind_eq_some_iff, Props.get?_eq_some_iff]
  simp only [Json.lookup_eq_some_iff hnames, List.mem_map]
  constructor
  · rintro ⟨value, ⟨pair, hmem, heq⟩, htext⟩
    obtain ⟨rfl, rfl⟩ := Prod.mk.inj heq
    rw [← Option.some.inj htext]
    exact h.mem_iff.mp hmem
  · intro hmem
    exact ⟨.string text, ⟨(name, text), h.mem_iff.mpr hmem, rfl⟩, rfl⟩

theorem ofEntry_of_members (h : Members block members) {entry : Json}
    (hfield : ∀ name, entry.field? name = Json.lookup name members) :
    ofEntry block.kind entry = .ok block := by
  cases h with
  | frontmatter hperm =>
      simp [ofEntry, kind, propsField, hfield, Json.lookup, propsOfMembers_perm hperm, Except.map]
  | other hkind =>
      cases block with
      | frontmatter props => contradiction
      | code src language =>
          have hlanguage : optionalTextField "language" entry = .ok language := by
            cases language <;> simp [optionalTextField, hfield, fields, Json.lookup]
          have hsrc : textField "src" entry = .ok src := by
            simp [textField, hfield, fields, Json.lookup]
          simp only [ofEntry, kind, hlanguage, hsrc]
          rfl
      | importing _ | exporting _ | prose _ | markup _ | comment _ =>
          simp [ofEntry, kind, hfield, textField, fields, Json.lookup, fromFields]
          rfl

variable {entry : Json}

theorem plain_of_isWrittenAs (h : block.IsWrittenAs entry) (depth : Nat) :
    Json.Plain (depth + 2) entry := by
  obtain ⟨members, others, hmembers, hperm, rfl⟩ := h
  exact .object fun member hmem => plain_of_members hmembers depth member (hperm.mem_iff.mp hmem)

theorem ofJson_of_isWrittenAs (h : block.IsWrittenAs entry) :
    Entry.ofJson entry = .ok (.known block) := by
  obtain ⟨members, others, hmembers, hperm, rfl⟩ := h
  have hfield : ∀ name, (Json.object others).field? name = Json.lookup name members :=
    Json.lookup_perm hperm (nodup_names_of_members hmembers)
  have htag : Json.lookup "type" members = some (.string block.kind.tag) := by
    cases hmembers with
    | frontmatter _ => simp [Json.lookup, kind, Kind.tag]
    | other _ => cases block <;> simp [Json.lookup, fields]
  simp [Entry.ofJson, hfield, htag, Json.string?, Kind.ofTag?_tag, ofEntry_of_members hmembers hfield,
    Except.map]

variable {blocks : List Block} {items : List Json} {text : String}

theorem plain_of_forall₂ (h : List.Forall₂ IsWrittenAs blocks items) (depth : Nat) :
    Json.Plain (depth + 3) (.array items) := by
  refine .array ?_
  induction h with
  | nil => simp
  | cons hentry _ ih =>
      intro item hmem
      rcases List.mem_cons.mp hmem with rfl | hmem
      · exact plain_of_isWrittenAs hentry depth
      · exact ih item hmem

theorem mapM_ofJson_of_forall₂ (h : List.Forall₂ IsWrittenAs blocks items) :
    items.mapM Entry.ofJson = .ok (blocks.map .known) := by
  induction h with
  | nil => rfl
  | cons hentry _ ih =>
      rw [List.mapM_cons, ofJson_of_isWrittenAs hentry, ih]
      rfl

-- Any text that stands for blocks is read as those blocks, all of known kinds.
theorem entries_of_areWrittenAs (h : AreWrittenAs blocks text) :
    Entry.ofText text = .ok (blocks.map .known) := by
  obtain ⟨items, hitems, rfl⟩ := h
  have hplain : Json.Plain Json.depthLimit (.array items) := plain_of_forall₂ hitems 124
  rw [Entry.ofText, Json.parse?_write hplain]
  exact mapM_ofJson_of_forall₂ hitems

theorem blocks_of_areWrittenAs (h : AreWrittenAs blocks text) : ofText text = .ok blocks := by
  rw [ofText, entries_of_areWrittenAs h]
  change (blocks.map Entry.known).mapM Entry.block = .ok blocks
  rw [Document.mapM_block, Document.unknownTags_map_known, Document.knownBlocks_map_known]
  rfl

theorem toModuleOfText_of_areWrittenAs (h : AreWrittenAs blocks text) (options : Options) :
    Document.toModuleOfText text options = Document.toModule blocks options := by
  rw [Document.toModuleOfText, entries_of_areWrittenAs h, ← Document.toModuleOfEntries_map_known]
  rfl

-- Blocks come back from every text that stands for them, and such a text gives the same module and
-- tells the same as the blocks themselves.
theorem wire_round_trip (blocks : List Block) :
    AreWrittenAs blocks (toText blocks) ∧
    ∀ text, AreWrittenAs blocks text →
      ofText text = .ok blocks ∧ Entry.ofText text = .ok (blocks.map .known) ∧
        ∀ options, Document.toModuleOfText text options = Document.toModule blocks options :=
  ⟨areWrittenAs_toText blocks, fun _ h =>
    ⟨blocks_of_areWrittenAs h, entries_of_areWrittenAs h, toModuleOfText_of_areWrittenAs h⟩⟩

-- Tags after other members, properties out of order, and a text that has to be escaped.
theorem wire_round_trip_reordered :
    let blocks : List Block :=
      [.frontmatter ⟨[("author", "B"), ("title", "\"A\"")], by decide⟩, .code "x\n" none]
    let text :=
      "[\x7b\"props\":\x7b\"title\":\"\\\"A\\\"\",\"author\":\"B\"\x7d,\"type\":\"yaml\"\x7d," ++
        "\x7b\"src\":\"x\\n\",\"type\":\"code\",\"language\":null\x7d]"
    AreWrittenAs blocks text ∧ ofText text = .ok blocks := by
  intro blocks text
  have hwritten : AreWrittenAs blocks text := by
    refine ⟨[.object [("props", .object [("title", .string "\"A\""), ("author", .string "B")]),
      ("type", .string "yaml")], .object [("src", .string "x\n"), ("type", .string "code"),
      ("language", .null)]], ?_, by decide +kernel⟩
    have hprops := List.Perm.swap ("author", "B") ("title", "\"A\"") []
    exact .cons ⟨_, _, .frontmatter hprops, List.Perm.swap _ _ [], rfl⟩
      (.cons ⟨_, _, .other nofun, List.Perm.swap _ _ _, rfl⟩ .nil)
  exact ⟨hwritten, ((wire_round_trip blocks).2 text hwritten).1⟩

end Block

end DocModule
