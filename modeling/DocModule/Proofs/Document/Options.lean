import DocModule.Proofs.Document.Precedence

namespace DocModule

namespace Component

-- Only one part of a component knows whether it is exported.
theorem render_of_skipExport (component : Component) (skipExport : Bool) :
    render { component with skipExport } =
      component.opening ++ declaration skipExport ++ (component.bindings ++ component.wrapper) := by
  rw [← String.append_assoc]
  rfl

end Component

namespace Document

-- The preamble of a document given as a text, as far as its entries are of known kinds.
def preambleOfText (text : String) : Except Error Preamble :=
  (Entry.ofText text).bind fun entries => (Preamble.build (knownBlocks entries)).outcome

-- How the outcome of one document hangs on the options: not at all where it is an error, and where it
-- is a text, in the line that declares the component and nowhere else. What stands above this line is
-- the preamble.
structure VariesInDeclaration (preamble : Except Error Preamble)
    (outcome : Options → Except Error String) : Prop where
  sameError : ∀ first second error, outcome first = .error error ↔ outcome second = .error error
  sameText : ∀ first second, first.skipExport = second.skipExport → outcome first = outcome second
  sameFrame : ∀ options code, outcome options = .ok code →
    ∃ above opening rest, preamble = .ok above ∧
      opening = (if above.text = "" then "" else above.text ++ "\n\n") ∧
      (∀ exporting, exporting.skipExport = false →
        outcome exporting = .ok (opening ++ "export default (props) => \x7b\n" ++ rest)) ∧
      (∀ skipping, skipping.skipExport = true →
        outcome skipping = .ok (opening ++ "const TDXContent = (props) => \x7b\n" ++ rest))

theorem variesInDeclaration_of_error {preamble : Except Error Preamble}
    {outcome : Options → Except Error String} {error : Error}
    (h : ∀ options, outcome options = .error error) : VariesInDeclaration preamble outcome where
  sameError first second other := by rw [h first, h second]
  sameText first second _ := by rw [h first, h second]
  sameFrame options code hcode := by
    rw [h options] at hcode
    cases hcode

-- The component of a document, before it is known whether it is exported.
def component (preamble : Preamble) (blocks : List Block) : Component where
  preamble := preamble.text
  body := Body.text blocks
  layout := preamble.layout
  exportNames := preamble.exportNames

theorem outcome_assemble_eq_parts (preamble : Preamble) (blocks : List Block) (options : Options) :
    (assemble preamble blocks options).outcome =
      .ok ((component preamble blocks).opening ++ Component.declaration options.skipExport ++
        ((component preamble blocks).bindings ++ (component preamble blocks).wrapper)) := by
  rw [outcome_assemble, ← Component.render_of_skipExport]
  rfl

theorem variesInDeclaration_of_assemble {preamble : Preamble} {blocks : List Block}
    {outcome : Options → Except Error String}
    (h : ∀ options, outcome options = (assemble preamble blocks options).outcome) :
    VariesInDeclaration (.ok preamble) outcome where
  sameError first second error := by
    rw [h first, h second, outcome_assemble, outcome_assemble]
    simp
  sameText first second hskip := by
    rw [h first, h second, outcome_assemble, outcome_assemble, hskip]
  sameFrame options code _ := by
    let rest := (component preamble blocks).bindings ++ (component preamble blocks).wrapper
    refine ⟨preamble, (component preamble blocks).opening, rest, rfl, rfl, ?_, ?_⟩
    · intro exporting hexport
      rw [h exporting, outcome_assemble_eq_parts, hexport]
      rfl
    · intro skipping hskip
      rw [h skipping, outcome_assemble_eq_parts, hskip]
      rfl

theorem toModule_variesInDeclaration (blocks : List Block) :
    VariesInDeclaration (Preamble.build blocks).outcome
      fun options => (toModule blocks options).outcome := by
  rw [Preamble.outcome_build]
  cases hrejection : blocks.findSome? Preamble.rejection? with
  | some error =>
      have herror : ∀ options, (toModule blocks options).outcome = .error error := by
        intro options
        rw [outcome_toModule, hrejection, Error.before_some]
      exact variesInDeclaration_of_error herror
  | none =>
      have hassemble : ∀ options, (toModule blocks options).outcome =
          (assemble (Preamble.summary blocks) blocks options).outcome := by
        intro options
        rw [outcome_toModule, hrejection, Error.before_none]
      exact variesInDeclaration_of_assemble hassemble

theorem toModuleOfText_variesInDeclaration (text : String) :
    VariesInDeclaration (preambleOfText text)
      fun options => (toModuleOfText text options).outcome := by
  cases hread : Entry.ofText text with
  | error error => exact variesInDeclaration_of_error (outcome_of_unreadable hread)
  | ok entries =>
      have hpreamble : preambleOfText text = (Preamble.build (knownBlocks entries)).outcome := by
        rw [preambleOfText, hread]
        rfl
      cases htags : (unknownTags entries).head? with
      | none =>
          -- no entry is of an unknown kind, so the text is treated like the blocks that it holds
          have hknown : (fun options => (toModuleOfText text options).outcome) =
              fun options => (toModule (knownBlocks entries) options).outcome := by
            funext options
            rw [outcome_of_readable hread, htags, outcome_toModule]
            cases (knownBlocks entries).findSome? Preamble.rejection? <;> rfl
          rw [hpreamble, hknown]
          exact toModule_variesInDeclaration (knownBlocks entries)
      | some tag =>
          have herror : ∃ error, ∀ options, (toModuleOfText text options).outcome = .error error := by
            simp only [outcome_of_readable hread, htags]
            cases (knownBlocks entries).findSome? Preamble.rejection? with
            | some error => exact ⟨error, fun _ => rfl⟩
            | none => exact ⟨.unknownKind tag, fun _ => rfl⟩
          obtain ⟨error, h⟩ := herror
          exact variesInDeclaration_of_error h

-- Options touch nothing but the line that declares the component, however a document is given and
-- whatever its own texts look like.
theorem options_vary_declaration_only (blocks : List Block) (text : String) :
    VariesInDeclaration (Preamble.build blocks).outcome
        (fun options => (toModule blocks options).outcome) ∧
      VariesInDeclaration (preambleOfText text)
        (fun options => (toModuleOfText text options).outcome) :=
  ⟨toModule_variesInDeclaration blocks, toModuleOfText_variesInDeclaration text⟩

-- A document whose own texts hold both declarations: it is not one of these that changes.
theorem options_vary_declaration_only_lookalike :
    let blocks : List Block :=
      [.importing "export default (props) => \x7b\n", .prose "const TDXContent = (props) => \x7b\n"]
    ∃ rest,
      (toModule blocks { skipExport := false }).outcome =
        .ok ("export default (props) => \x7b\n\n\n" ++ "export default (props) => \x7b\n" ++ rest) ∧
      (toModule blocks { skipExport := true }).outcome =
        .ok ("export default (props) => \x7b\n\n\n" ++
          "const TDXContent = (props) => \x7b\n" ++ rest) := by
  intro blocks
  have hvaries := (options_vary_declaration_only blocks "").1
  have hnone : blocks.findSome? Preamble.rejection? = none := rfl
  obtain ⟨code, hcode⟩ := exists_code_of_not_rejected hnone {}
  obtain ⟨above, opening, rest, habove, hopening, hexporting, hskipping⟩ :=
    hvaries.sameFrame {} code hcode
  obtain rfl : Preamble.summary blocks = above := Except.ok.inj habove
  subst hopening
  exact ⟨rest, hexporting _ rfl, hskipping _ rfl⟩

end Document

end DocModule
