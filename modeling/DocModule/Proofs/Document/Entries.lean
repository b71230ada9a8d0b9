import DocModule.Proofs.Document.Outcome

namespace DocModule.Document

theorem mem_knownBlocks {block : Block} {entries : List Entry} :
    block ∈ knownBlocks entries ↔ .known block ∈ entries := by
  rw [knownBlocks, List.mem_filterMap]
  constructor
  · rintro ⟨entry, hmem, h⟩
    cases entry with
    | known other => exact Option.some.inj h ▸ hmem
    | unknown tag => cases h
  · intro hmem
    exact ⟨.known block, hmem, rfl⟩

theorem mem_unknownTags {tag : String} {entries : List Entry} :
    tag ∈ unknownTags entries ↔ .unknown tag ∈ entries := by
  rw [unknownTags, List.mem_filterMap]
  constructor
  · rintro ⟨entry, hmem, h⟩
    cases entry with
    | known block => cases h
    | unknown other => exact Option.some.inj h ▸ hmem
  · intro hmem
    exact ⟨.unknown tag, hmem, rfl⟩

theorem unknownTags_eq_nil_iff {entries : List Entry} :
    unknownTags entries = [] ↔ ∀ tag, .unknown tag ∉ entries := by
  rw [List.eq_nil_iff_forall_not_mem]
  simp only [mem_unknownTags]

@[simp] theorem knownBlocks_map_known (blocks : List Block) :
    knownBlocks (blocks.map .known) = blocks := by
  induction blocks with
  | nil => rfl
  | cons block blocks ih => exact congrArg (block :: ·) ih

@[simp] theorem unknownTags_map_known (blocks : List Block) :
    unknownTags (blocks.map .known) = [] := by
  rw [unknownTags_eq_nil_iff]
  simp

theorem mapM_block (entries : List Entry) :
    entries.mapM Entry.block =
      Error.before ((unknownTags entries).head?.map .unknownKind) (.ok (knownBlocks entries)) := by
  have hfailure : (entries.findSome? fun entry => Error.ofOutcome? entry.block) =
      (unknownTags entries).head?.map .unknownKind := by
    rw [unknownTags, List.head?_filterMap, List.map_findSome?]
    congr 1
    funext entry
    cases entry <;> rfl
  have hknown : (entries.filterMap fun entry => entry.block.toOption) = knownBlocks entries := by
    rw [knownBlocks]
    congr 1
    funext entry
    cases entry <;> rfl
  rw [Error.mapM_eq_before, hfailure, hknown]

-- Entries that are all of known kinds are treated as the blocks that they hold.
theorem toModuleOfEntries_map_known (blocks : List Block) (options : Options) :
    toModuleOfEntries (blocks.map .known) options = toModule blocks options := by
  simp only [toModuleOfEntries, toModule, knownBlocks_map_known, unknownTags_map_known]
  rfl

end DocModule.Document
