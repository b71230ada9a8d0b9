import DocModule.Proofs.Document.Options
import DocModule.Proofs.Preamble.Invariant
import DocModule.Proofs.Text.Pieces

namespace DocModule

open Text

-- The characters that end a line of a program.
def Text.lineBreaks : List Char :=
  ['\n', '\r', '\u2028', '\u2029']

theorem Text.mem_lineBreaks {c : Char} :
    c ∈ lineBreaks ↔ c = '\n' ∨ c = '\r' ∨ c = '\u2028' ∨ c = '\u2029' := by
  simp [lineBreaks]

namespace Component

-- What a module holds above the declaration of the layout's properties, and what it holds below.
def aboveLayoutProps (component : Component) : String :=
  component.opening ++ declaration component.skipExport ++
    ("  const layout = " ++ component.layoutExpression?.getD "null" ++ ";\n" ++
      "  const env = typeof useEnv === 'function' ? useEnv() : \x7b\x7d;\n")

def belowLayoutProps (component : Component) : String :=
  "\n" ++ component.wrapper

theorem render_eq_around_layoutProps (component : Component) :
    component.render =
      component.aboveLayoutProps ++ layoutProps component.exportNames ++
        component.belowLayoutProps := by
  -- opened by delta, since the equations of these parts are slow to generate
  delta render bindings aboveLayoutProps belowLayoutProps
  simp only [String.append_assoc]

-- The value of the layout's properties: the names between braces.
def layoutPropsValue (names : List String) : String :=
  if names = [] then "\x7b\x7d" else "\x7b " ++ joined ", " names ++ " \x7d"

theorem layoutProps_eq_value (names : List String) :
    layoutProps names = "  const layoutProps = " ++ layoutPropsValue names ++ ";" ++ "\n" := by
  by_cases h : names = []
  · subst h
    rfl
  · have hopening : "  const layoutProps = \x7b " = "  const layoutProps = " ++ "\x7b " := rfl
    have hclosing : " \x7d;\n" = " \x7d" ++ ";" ++ "\n" := rfl
    rw [layoutProps, layoutPropsValue, if_neg h, if_neg h, hopening, hclosing]
    simp only [String.append_assoc]

section Names

variable {names : List String} (h : ∀ name ∈ names, Export.IsName name.toList)
include h

theorem not_mem_layoutPropsValue {c : Char} (hc : c ∈ lineBreaks) :
    c ∉ (layoutPropsValue names).toList := by
  have hblank : isBlank c := by
    rcases mem_lineBreaks.mp hc with rfl | rfl | rfl | rfl <;> decide
  have hfixed : c ∉ "\x7b\x7d".toList ∧ c ∉ "\x7b ".toList ∧ c ∉ " \x7d".toList ∧ c ∉ ", ".toList := by
    rcases mem_lineBreaks.mp hc with rfl | rfl | rfl | rfl <;> decide
  rw [layoutPropsValue]
  split
  · exact hfixed.1
  · have hjoined := not_mem_toList_joined hfixed.2.2.2 fun name hmem =>
      Export.not_mem_of_isName (h name hmem) (.inl hblank)
    simp only [String.toList_append, List.mem_append, not_or]
    exact ⟨⟨hfixed.2.1, hjoined⟩, hfixed.2.2.1⟩

-- No name has a brace or a comma, so each of them ends where the line says.
theorem names_of_layoutProps (hne : names ≠ []) :
    (between? "\x7b " " \x7d" ("  const layoutProps = " ++ layoutPropsValue names ++ ";")).map
      (splitOn ", ") = some names := by
  have hbrace : '\x7d' ∉ (joined ", " names).toList :=
    not_mem_toList_joined (by decide) fun name hmem =>
      Export.not_mem_of_isName (h name hmem) (.inr (by simp))
  have hcomma : ∀ name ∈ names, ',' ∉ name.toList := fun name hmem =>
    Export.not_mem_of_isName (h name hmem) (.inr (by simp))
  have hline : ("  const layoutProps = " ++ layoutPropsValue names ++ ";").toList =
      "  const layoutProps = ".toList ++
        ("\x7b ".toList ++ ((joined ", " names).toList ++ ([' ', '\x7d'] ++ [';']))) := by
    rw [layoutPropsValue, if_neg hne]
    simp
  have hopening : ∀ rest, cutAt? "\x7b ".toList ("  const layoutProps = ".toList ++
      ("\x7b ".toList ++ rest)) = some ("  const layoutProps = ".toList, rest) :=
    cutAt?_append_of_not_mem rfl (by decide)
  have hclosing : cutAt? " \x7d".toList ((joined ", " names).toList ++ ([' ', '\x7d'] ++ [';'])) =
      some ((joined ", " names).toList, [';']) := cutAt?_append_pair (by decide) hbrace [';']
  have hsplit : splitOn ", " (joined ", " names) = names := splitOn_joined rfl hne hcomma
  rw [between?, hline, hopening]
  simp only [Option.bind_eq_bind, Option.bind_some, hclosing, Option.map_some, String.ofList_toList,
    hsplit]

end Names

end Component

namespace Document

-- A preamble, and the line of a module that shows its names. Whatever a document exports, this is
-- one line, and the names can be read back from it.
theorem preamble_sound_and_shown {blocks : List Block} {preamble : Preamble}
    (h : (Preamble.build blocks).outcome = .ok preamble) :
    Preamble.Sound blocks preamble ∧
    preamble.exportNames.length ≤ preamble.declarations.length ∧
    ∀ options : Options,
      let component := { component preamble blocks with skipExport := options.skipExport }
      ∃ value line, line = "  const layoutProps = " ++ value ++ ";" ∧
        (toModule blocks options).outcome =
          .ok (component.aboveLayoutProps ++ (line ++ "\n") ++ component.belowLayoutProps) ∧
        (∀ c ∈ lineBreaks, c ∉ line.toList) ∧
        (preamble.exportNames = [] → value = "\x7b\x7d") ∧
        (preamble.exportNames ≠ [] →
          (between? "\x7b " " \x7d" line).map (splitOn ", ") = some preamble.exportNames) := by
  have hsound := Preamble.sound_of_build h
  refine ⟨hsound, hsound.length_exportNames_le, fun options => ?_⟩
  have hnames : ∀ name ∈ preamble.exportNames, Export.IsName name.toList :=
    fun name hmem => hsound.isName_of_mem hmem
  refine ⟨Component.layoutPropsValue preamble.exportNames, _, rfl, ?_, ?_, ?_, ?_⟩
  · obtain ⟨hnone, rfl⟩ := Preamble.outcome_build_eq_ok_iff.mp h
    rw [outcome_toModule, hnone, Error.before_none, outcome_assemble, ← Component.layoutProps_eq_value]
    exact congrArg Except.ok (Component.render_eq_around_layoutProps _)
  · intro c hc
    have hfixed : c ∉ "  const layoutProps = ".toList ∧ c ∉ ";".toList := by
      rcases mem_lineBreaks.mp hc with rfl | rfl | rfl | rfl <;> decide
    simp only [String.toList_append, List.mem_append, not_or]
    exact ⟨⟨hfixed.1, Component.not_mem_layoutPropsValue hnames hc⟩, hfixed.2⟩
  · intro hnil
    rw [hnil]
    rfl
  · exact fun hne => Component.names_of_layoutProps hnames hne

-- A name that is declared twice, a generator and a layout, with prose between them.
theorem preamble_sound_and_shown_repeated :
    let blocks : List Block :=
      [.exporting "export const b = 2", .prose "<p/>", .exporting "export function*a() \x7b\x7d",
        .exporting "export const b = 3", .exporting "export default  A ;"]
    ∃ preamble, (Preamble.build blocks).outcome = .ok preamble ∧ preamble.layout = some "A" ∧
      preamble.exportNames = ["b", "a", "b"] ∧ Preamble.Sound blocks preamble ∧
      ∀ options, ∃ above line below,
        (toModule blocks options).outcome = .ok (above ++ (line ++ "\n") ++ below) ∧
        '\n' ∉ line.toList ∧
        (between? "\x7b " " \x7d" line).map (splitOn ", ") = some ["b", "a", "b"] := by
  intro blocks
  have hbuild : (Preamble.build blocks).outcome =
      .ok ⟨["export const b = 2", "export function*a() \x7b\x7d", "export const b = 3"], some "A",
        ["b", "a", "b"]⟩ := Error.eq_ok_of_toOption (by decide +kernel)
  obtain ⟨hsound, -, hshown⟩ := preamble_sound_and_shown hbuild
  refine ⟨_, hbuild, rfl, rfl, hsound, fun options => ?_⟩
  obtain ⟨value, line, -, hcode, hbreaks, -, hnames⟩ := hshown options
  exact ⟨_, line, _, hcode, hbreaks '\n' (by decide), hnames (by decide)⟩

end Document

end DocModule
