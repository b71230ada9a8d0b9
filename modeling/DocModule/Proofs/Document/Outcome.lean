import DocModule.Document
import DocModule.Proofs.Preamble.Summary

namespace DocModule.Document

theorem outcome_assemble (preamble : Preamble) (blocks : List Block) (options : Options) :
    (assemble preamble blocks options).outcome =
      .ok (Component.render {
        preamble := preamble.text, body := Body.text blocks, layout := preamble.layout,
        exportNames := preamble.exportNames, skipExport := options.skipExport }) :=
  rfl

-- The preamble decides alone whether a document has a module.
theorem outcome_toModule (blocks : List Block) (options : Options) :
    (toModule blocks options).outcome =
      Error.before (blocks.findSome? Preamble.rejection?)
        (assemble (Preamble.summary blocks) blocks options).outcome := by
  rw [toModule, Run.outcome_bind, Preamble.outcome_build, Error.before_bind]
  rfl

theorem exists_code_of_not_rejected {blocks : List Block}
    (h : blocks.findSome? Preamble.rejection? = none) (options : Options) :
    ∃ code, (toModule blocks options).outcome = .ok code := by
  rw [outcome_toModule, h, outcome_assemble]
  exact ⟨_, rfl⟩

theorem outcome_toModuleOfEntries (entries : List Entry) (options : Options) :
    (toModuleOfEntries entries options).outcome =
      Error.before ((knownBlocks entries).findSome? Preamble.rejection?)
        (Error.before ((unknownTags entries).head?.map .unknownKind)
          (toModule (knownBlocks entries) options).outcome) := by
  rw [toModuleOfEntries]
  simp only [Run.outcome_bind, Run.outcome_forM_tell, Preamble.outcome_build, outcome_toModule]
  cases (knownBlocks entries).findSome? Preamble.rejection? with
  | some error => rfl
  | none => cases (unknownTags entries).head? <;> rfl

theorem outcome_toModuleOfText (text : String) (options : Options) :
    (toModuleOfText text options).outcome =
      (Entry.ofText text).bind fun entries => (toModuleOfEntries entries options).outcome := by
  rw [toModuleOfText, Run.outcome_bind, Run.outcome_ofExcept]

end DocModule.Document
