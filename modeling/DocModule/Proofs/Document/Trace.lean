import DocModule.Proofs.Document.Concatenation
import DocModule.Proofs.Document.Precedence
import Mathlib.Data.List.Infix
import Mathlib.Data.List.TakeWhile

namespace DocModule

-- What is told, with its level and in words.
abbrev Note := Level × String

def Record.note (record : Record) : Note :=
  (record.level, record.message)

namespace Note

-- The words about each thing that is told. A layout is set or unset.
def skipped (tag : String) : Note :=
  (.trace, "preamble skips " ++ tag ++ " block")

def skippedUnknown (tag : String) : Note :=
  (.trace, "preamble skips unknown `" ++ tag ++ "` block")

def replaced (previous next : String) : Note :=
  (.warn, "multiple default exports; layout `" ++ previous ++ "` replaced by `" ++ next ++ "`")

def preamble (declarations names : Nat) (layout : String) : Note :=
  (.debug, "preamble: " ++ toString declarations ++ " declarations, " ++ toString names ++
    " export names, layout " ++ layout)

def body (fragments blocks : Nat) : Note :=
  (.debug, "sections: " ++ toString fragments ++ " fragments from " ++ toString blocks ++ " blocks")

end Note

namespace Record

theorem note_layoutReplaced (previous next : String) :
    (Record.layoutReplaced previous next).note = .replaced previous next :=
  rfl

theorem note_preambleBuilt (declarations names : Nat) (hasLayout : Bool) :
    (Record.preambleBuilt declarations names hasLayout).note =
      .preamble declarations names (if hasLayout then "set" else "unset") :=
  rfl

theorem note_bodyBuilt (fragments blocks : Nat) :
    (Record.bodyBuilt fragments blocks).note = .body fragments blocks :=
  rfl

end Record

namespace Preamble

-- What is told about a block after those in front of it: that a block of the body is passed over, or
-- that the expression of a default export takes the place of the last one before.
def blockNotes (before : List Block) (block : Block) : List Note :=
  if block.isRenderable then [.skipped block.kind.tag]
  else
    match (before.filterMap expression?).getLast?, expression? block with
    | some previous, some next => [.replaced previous next]
    | _, _ => []

-- What is told about blocks that follow others. Each of them is looked at with all that precede it.
def notesAfter (earlier blocks : List Block) : List Note :=
  (blocks.inits.zip blocks).flatMap fun (before, block) => blockNotes (earlier ++ before) block

-- The blocks in front of the first one that is rejected.
def admitted (blocks : List Block) : List Block :=
  blocks.takeWhile fun block => (rejection? block).isNone

@[simp] theorem notesAfter_nil (earlier : List Block) : notesAfter earlier [] = [] :=
  rfl

theorem notesAfter_cons (earlier : List Block) (block : Block) (blocks : List Block) :
    notesAfter earlier (block :: blocks) =
      blockNotes earlier block ++ notesAfter (earlier ++ [block]) blocks := by
  simp [notesAfter, List.zip_map_left, List.flatMap_map]

theorem blockNotes_of_declaration {block : Block} (hbody : block.isRenderable = false)
    (hnone : expression? block = none) (earlier : List Block) : blockNotes earlier block = [] := by
  simp [blockNotes, hbody, hnone]

-- One block is told about as its own text and the last expression before it demand.
theorem notes_absorb {block : Block} (h : rejection? block = none) (earlier : List Block) :
    ((summary earlier).absorb block).records.map Record.note = blockNotes earlier block := by
  cases block with
  | frontmatter props | importing src => exact (blockNotes_of_declaration rfl rfl earlier).symm
  | exporting src =>
      obtain ⟨expression, hclass⟩ | ⟨form, hclass⟩ | ⟨name, hclass⟩ | hclass :=
        Export.classify_cases src
      · have hbody : (Block.exporting src).isRenderable = false := rfl
        have hnext : expression? (.exporting src) = some expression := by simp [expression?, hclass]
        have hlayout : (summary earlier).layout = (earlier.filterMap expression?).getLast? := rfl
        rw [blockNotes, hbody, hnext, ← hlayout, absorb, hclass]
        cases hlast : (summary earlier).layout <;>
          simp [setLayout, hlast, Run.tell, Record.note_layoutReplaced]
      · simp [rejection?, hclass] at h
      · rw [blockNotes_of_declaration rfl (by simp [expression?, hclass]), absorb, hclass]
        rfl
      · rw [blockNotes_of_declaration rfl (by simp [expression?, hclass]), absorb, hclass]
        rfl
  | prose value | code src language | markup src | comment src => rfl

theorem records_absorb_of_rejected {block : Block} {error : Error} (h : rejection? block = some error)
    (preamble : Preamble) : (preamble.absorb block).records = [] := by
  obtain ⟨src, form, rfl, hclass, -⟩ := rejection?_eq_some_iff.mp h
  rw [absorb, hclass]
  rfl

-- A run over blocks tells about each of them up to the first one that is rejected. The induction is
-- over the blocks, after any that have been absorbed before.
theorem notes_foldlM_absorb (earlier blocks : List Block) :
    (blocks.foldlM absorb (summary earlier)).records.map Record.note =
      notesAfter earlier (admitted blocks) := by
  induction blocks generalizing earlier with
  | nil => rfl
  | cons block blocks ih =>
      have houtcome := outcome_absorb (summary earlier) block
      rw [List.foldlM_cons]
      cases hrejection : rejection? block with
      | some error =>
          have hadmitted : admitted (block :: blocks) = [] := by simp [admitted, hrejection]
          rw [hrejection, Error.before_some] at houtcome
          rw [Run.records_bind_of_error houtcome, records_absorb_of_rejected hrejection, hadmitted]
          rfl
      | none =>
          have hadmitted : admitted (block :: blocks) = block :: admitted blocks := by
            simp [admitted, hrejection]
          rw [hrejection, Error.before_none, ← summary_append] at houtcome
          rw [Run.records_bind_of_ok houtcome, List.map_append, notes_absorb hrejection, ih, hadmitted,
            notesAfter_cons]

theorem isSome_layout_summary (blocks : List Block) :
    (summary blocks).layout.isSome ↔ ∃ block ∈ blocks, (expression? block).isSome := by
  simp [summary, Option.isSome_iff_ne_none]

theorem notes_build (blocks : List Block) :
    (build blocks).records.map Record.note =
      notesAfter [] (admitted blocks) ++
        match (build blocks).outcome with
        | .ok preamble =>
            [.preamble preamble.declarations.length preamble.exportNames.length
              (if ∃ block ∈ blocks, (expression? block).isSome then "set" else "unset")]
        | .error _ => [] := by
  have hrun := outcome_foldlM_absorb empty blocks
  have hnotes := notes_foldlM_absorb [] blocks
  rw [empty_append] at hrun
  rw [summary_nil] at hnotes
  rw [outcome_build, build]
  cases hrejection : blocks.findSome? rejection? with
  | some error =>
      rw [hrejection, Error.before_some] at hrun
      rw [Run.records_bind_of_error hrun, hnotes]
      simp
  | none =>
      rw [hrejection, Error.before_none] at hrun
      rw [Run.records_bind_of_ok hrun, List.map_append, hnotes]
      simp [Run.tell, Record.note_preambleBuilt, isSome_layout_summary]

-- Blocks that are told about at the level of a warning are the default exports after another one.
theorem countP_warn_blockNotes (earlier : List Block) (block : Block) :
    (blockNotes earlier block).countP (·.1 = .warn) =
      if (expression? block).isSome ∧ earlier.filterMap expression? ≠ [] then 1 else 0 := by
  rw [blockNotes]
  split
  · next hbody =>
    have hnone : expression? block = none := by
      cases block with
      | prose _ | code _ _ | markup _ | comment _ => rfl
      | frontmatter _ | importing _ | exporting _ => cases hbody
    simp [hnone, Note.skipped]
  · split
    · next previous expression hlast hexpression =>
      have hne : earlier.filterMap expression? ≠ [] := by
        intro hnil
        rw [hnil] at hlast
        cases hlast
      simp [hexpression, hne, Note.replaced]
    · next hnot =>
      have hneither : ¬ ((expression? block).isSome ∧ earlier.filterMap expression? ≠ []) := by
        rintro ⟨hsome, hne⟩
        obtain ⟨expression, hexpression⟩ := Option.isSome_iff_exists.mp hsome
        exact hnot _ expression (List.getLast?_eq_some_getLast hne) hexpression
      rw [if_neg hneither]
      rfl

-- A first default export replaces nothing, and every later one does.
theorem countP_warn_notesAfter (earlier blocks : List Block) :
    (notesAfter earlier blocks).countP (·.1 = .warn) =
      (blocks.filterMap expression?).length -
        if earlier.filterMap expression? = [] then 1 else 0 := by
  induction blocks generalizing earlier with
  | nil => simp
  | cons block blocks ih =>
      rw [notesAfter_cons, List.countP_append, countP_warn_blockNotes, ih, List.filterMap_append]
      cases hnext : expression? block with
      | none => simp [hnext]
      | some next =>
          by_cases hnil : earlier.filterMap expression? = []
          · simp [hnext, hnil]
          · simp [hnext, hnil, Nat.add_comm]

end Preamble

namespace Document

open Preamble

-- What is told at the end of a document none of whose exports is rejected. The layout is set by any
-- default export, even an empty one, and the body is not made if an entry is of an unknown kind.
def closingNotes (entries : List Entry) (preamble : Preamble) : List Note :=
  .preamble preamble.declarations.length preamble.exportNames.length
      (if ∃ block ∈ knownBlocks entries, (expression? block).isSome then "set" else "unset") ::
    if unknownTags entries = [] then
      [.body (((knownBlocks entries).filterMap Body.fragment?).filter (· ≠ "")).length
        (knownBlocks entries).length]
    else []

-- What is told about a document given by its entries: first those of unknown kinds, then the blocks
-- up to the first one that is rejected, and if none is, the preamble and the body.
def expectedNotes (entries : List Entry) : List Note :=
  (unknownTags entries).map .skippedUnknown ++
  (notesAfter [] (admitted (knownBlocks entries)) ++
    match (Preamble.build (knownBlocks entries)).outcome with
    | .error _ => []
    | .ok preamble => closingNotes entries preamble)

theorem records_assemble (preamble : Preamble) (blocks : List Block) (options : Options) :
    (assemble preamble blocks options).records =
      [.bodyBuilt (Body.fragments blocks).length blocks.length] :=
  rfl

theorem notes_toModuleOfEntries (entries : List Entry) (options : Options) :
    (toModuleOfEntries entries options).records.map Record.note = expectedNotes entries := by
  have hnotes := notes_build (knownBlocks entries)
  have htags := Run.outcome_forM_tell Record.skippedUnknown (unknownTags entries)
  rw [toModuleOfEntries, Run.records_bind_of_ok htags, Run.records_forM_tell, List.map_append,
    List.map_map, expectedNotes]
  congr 1
  cases hbuild : (Preamble.build (knownBlocks entries)).outcome with
  | error error =>
      rw [hbuild] at hnotes
      rw [Run.records_bind_of_error hbuild, hnotes]
  | ok preamble =>
      rw [hbuild] at hnotes
      rw [Run.records_bind_of_ok hbuild, List.map_append, hnotes, List.append_assoc]
      cases htags : unknownTags entries with
      | nil => simp [closingNotes, htags, records_assemble, Record.note_bodyBuilt, Body.fragments,
          Text.nonempty]
      | cons tag tags => simp [closingNotes, htags, Run.fail]

theorem countP_warn_closingNotes (entries : List Entry) (preamble : Preamble) :
    (closingNotes entries preamble).countP (·.1 = .warn) = 0 := by
  by_cases htags : unknownTags entries = [] <;> simp [closingNotes, htags, Note.preamble, Note.body]

theorem countP_warn_expectedNotes {entries : List Entry}
    (h : ∀ entry ∈ entries, ¬ entry.IsRejected) :
    (expectedNotes entries).countP (·.1 = .warn) =
      ((knownBlocks entries).filterMap expression?).length - 1 := by
  have hnone := findSome?_rejection_eq_none_iff.mpr h
  have hadmitted : admitted (knownBlocks entries) = knownBlocks entries := by
    rw [admitted, List.takeWhile_eq_self_iff]
    simpa using List.findSome?_eq_none_iff.mp hnone
  have hbuild : (Preamble.build (knownBlocks entries)).outcome = .ok (summary (knownBlocks entries)) :=
    outcome_build_eq_ok_iff.mpr ⟨hnone, rfl⟩
  have hunknown : ((unknownTags entries).map Note.skippedUnknown).countP (·.1 = .warn) = 0 := by
    simp [Note.skippedUnknown]
  rw [expectedNotes, hadmitted, hbuild, List.countP_append, List.countP_append, hunknown,
    countP_warn_notesAfter, countP_warn_closingNotes]
  simp

-- The whole log of a document given as a text, in order and in words. If no export is rejected, there
-- is a warning for every default export but the first.
theorem notes_toModuleOfText (text : String) (options : Options) :
    ((toModuleOfText text options).records.map Record.note =
      match Entry.ofText text with
      | .error _ => []
      | .ok entries => expectedNotes entries) ∧
    ∀ entries, Entry.ofText text = .ok entries →
      ((∃ preamble, (Preamble.build (knownBlocks entries)).outcome = .ok preamble) ↔
        ∀ entry ∈ entries, ¬ entry.IsRejected) ∧
      ((∀ entry ∈ entries, ¬ entry.IsRejected) →
        (toModuleOfText text options).records.countP (·.level = .warn) =
          ((knownBlocks entries).filterMap expression?).length - 1) := by
  have hnotes : (toModuleOfText text options).records.map Record.note =
      match Entry.ofText text with
      | .error _ => []
      | .ok entries => expectedNotes entries := by
    cases hread : Entry.ofText text with
    | error error =>
        rw [toModuleOfText, Run.records_bind_of_error hread]
        rfl
    | ok entries =>
        rw [toModuleOfText, Run.records_bind_of_ok hread]
        exact notes_toModuleOfEntries entries options
  refine ⟨hnotes, fun entries hread => ⟨?_, fun haccepted => ?_⟩⟩
  · rw [← findSome?_rejection_eq_none_iff]
    simp [outcome_build_eq_ok_iff]
  · have hexpected : (toModuleOfText text options).records.map Record.note = expectedNotes entries := by
      rw [hnotes, hread]
    rw [← countP_warn_expectedNotes haccepted, ← hexpected, List.countP_map]
    rfl

-- Two layouts are replaced, one of them by an empty expression, and an entry of an unknown kind stands
-- between them.
theorem notes_toModuleOfText_replaced_twice :
    let text :=
      "[\x7b\"type\":\"export\",\"src\":\"export default A;\"\x7d,\x7b\"type\":\"table\"\x7d," ++
        "\x7b\"type\":\"export\",\"src\":\"export default ;\"\x7d,\x7b\"type\":\"md\",\"value\":\"\"\x7d," ++
        "\x7b\"type\":\"export\",\"src\":\"export default B\"\x7d]"
    (toModuleOfText text {}).records.map Record.note =
        [(.trace, "preamble skips unknown `table` block"),
          (.warn, "multiple default exports; layout `A` replaced by ``"),
          (.trace, "preamble skips md block"),
          (.warn, "multiple default exports; layout `` replaced by `B`"),
          (.debug, "preamble: 0 declarations, 0 export names, layout set")] ∧
      (toModuleOfText text {}).records.countP (·.level = .warn) = 2 := by
  intro text
  have hread : Entry.ofText text =
      .ok [.known (.exporting "export default A;"), .unknown "table",
        .known (.exporting "export default ;"), .known (.prose ""),
        .known (.exporting "export default B")] :=
    Error.eq_ok_of_toOption (by decide +kernel)
  obtain ⟨hnotes, hcount⟩ := notes_toModuleOfText text {}
  obtain ⟨haccepted, hwarnings⟩ := hcount _ hread
  rw [hread] at hnotes
  have hnone := haccepted.mp ⟨⟨[], some "B", []⟩, Error.eq_ok_of_toOption (by decide +kernel)⟩
  exact ⟨hnotes.trans (by decide +kernel), (hwarnings hnone).trans (by decide +kernel)⟩

end Document

end DocModule
