import DocModule.Proofs.Document.Outcome

namespace DocModule.Document

open Text

-- The text of a module, written out line by line. The texts above the component and in its body are
-- lists of paragraphs, so that what is left out is decided by a list and not by a joined text.
def moduleText (declarations names fragments : List String) (layout : Option String)
    (skipExport : Bool) : String :=
  (if declarations = [] then "" else "\n\n".intercalate declarations ++ "\n\n") ++
  (if skipExport then "const TDXContent = (props) => \x7b\n" else "export default (props) => \x7b\n") ++
  ("  const layout = " ++ layout.getD "null" ++ ";\n") ++
  "  const env = typeof useEnv === 'function' ? useEnv() : \x7b\x7d;\n" ++
  (if names = [] then "  const layoutProps = \x7b\x7d;\n"
    else "  const layoutProps = \x7b " ++ ", ".intercalate names ++ " \x7d;\n") ++
  "\n" ++
  ("  return <Md name=\"wrapper\" props=\x7b\x7b id: \"tdx\" \x7d\x7d" ++
    (if layout = none then ""
      else " Layout=\x7blayout\x7d layoutProps=\x7bObject.assign(\x7b\x7d, layoutProps, props)\x7d") ++
    ">\n") ++
  (if fragments = [] then "" else "\n\n".intercalate fragments ++ "\n") ++
  "  </Md>;\n\x7d;\n"

-- What a document gives: the error of its first rejected export, or else the text made of its
-- declarations, exported names and fragments in order and of its last default export. An empty last
-- expression is no layout, even if an earlier one was not empty.
def reference (blocks : List Block) (options : Options) : Except Error String :=
  match blocks.findSome? Preamble.rejection? with
  | some error => .error error
  | none =>
      .ok (moduleText
        ((blocks.filterMap Preamble.declaration?).filter (· ≠ ""))
        (blocks.filterMap Preamble.exportedName?)
        ((blocks.filterMap Body.fragment?).filter (· ≠ ""))
        ((blocks.filterMap Preamble.expression?).getLast?.filter (· ≠ ""))
        options.skipExport)

-- Joined texts that are followed by something unless they are empty: it is the list that decides.
theorem paragraphs_then (texts : List String) (after : String) :
    (if paragraphs (nonempty texts) = "" then "" else paragraphs (nonempty texts) ++ after) =
      if nonempty texts = [] then "" else "\n\n".intercalate (nonempty texts) ++ after := by
  by_cases h : nonempty texts = []
  · simp [h, paragraphs]
  · have hne : paragraphs (nonempty texts) ≠ "" := mt (paragraphs_nonempty_eq_empty_iff texts).mp h
    rw [if_neg hne, if_neg h, paragraphs, joined_eq_intercalate]

theorem declaration_eq (skipExport : Bool) :
    Component.declaration skipExport =
      if skipExport then "const TDXContent = (props) => \x7b\n"
      else "export default (props) => \x7b\n" := by
  cases skipExport <;> rfl

theorem layoutProps_eq (names : List String) :
    Component.layoutProps names =
      if names = [] then "  const layoutProps = \x7b\x7d;\n"
      else "  const layoutProps = \x7b " ++ ", ".intercalate names ++ " \x7d;\n" := by
  rw [Component.layoutProps, joined_eq_intercalate]

theorem wired_eq (layout : Option String) (wired : String) :
    (if layout.isSome then wired else "") = if layout = none then "" else wired := by
  cases layout <;> simp

theorem render_eq_moduleText (declarations names fragments : List String) (layout : Option String)
    (skipExport : Bool) :
    Component.render {
        preamble := paragraphs (nonempty declarations), body := paragraphs (nonempty fragments),
        layout, exportNames := names, skipExport } =
      moduleText (nonempty declarations) names (nonempty fragments) (layout.filter (· ≠ ""))
        skipExport := by
  -- the parts are opened by delta alone, since their equations are slow to generate
  delta Component.render Component.opening Component.bindings Component.wrapper moduleText
  simp only [declaration_eq, layoutProps_eq, paragraphs_then, wired_eq]
  simp only [String.append_assoc]
  rfl

-- The outcome of a document is what can be read off its blocks without running through them.
theorem outcome_toModule_eq_reference (blocks : List Block) (options : Options) :
    (toModule blocks options).outcome = reference blocks options := by
  rw [outcome_toModule, outcome_assemble, reference]
  cases blocks.findSome? Preamble.rejection? with
  | some error => rfl
  | none => exact congrArg Except.ok (render_eq_moduleText _ _ _ _ _)

end DocModule.Document
