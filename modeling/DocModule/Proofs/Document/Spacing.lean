import DocModule.Proofs.Document.LayoutProps
import DocModule.Proofs.Text.Mark

namespace DocModule

namespace Text

-- Three line breaks in a row, which show as two blank lines.
def breakRun : List Char :=
  ['\n', '\n', '\n']

def Calm (text : String) : Prop :=
  ¬ breakRun <:+: text.toList

instance (text : String) : Decidable (Calm text) :=
  inferInstanceAs (Decidable (¬ _))

-- A text that can follow any calm text, since it does not start with a break.
structure Follows (text : String) : Prop where
  start : text.toList.head? ≠ some '\n'
  calm : Calm text

-- A text that can stand between blank lines.
structure Compact (text : String) : Prop extends Follows text where
  finish : text.toList.getLast? ≠ some '\n'

instance (text : String) : Decidable (Follows text) :=
  decidable_of_iff (text.toList.head? ≠ some '\n' ∧ Calm text)
    ⟨fun ⟨hstart, hcalm⟩ => ⟨hstart, hcalm⟩, fun h => ⟨h.start, h.calm⟩⟩

instance (text : String) : Decidable (Compact text) :=
  decidable_of_iff (Follows text ∧ text.toList.getLast? ≠ some '\n')
    ⟨fun ⟨hfollows, hfinish⟩ => ⟨hfollows, hfinish⟩, fun h => ⟨h.toFollows, h.finish⟩⟩

theorem not_mem_breakRun {c : Char} (h : c ≠ '\n') : c ∉ breakRun := by
  simp [breakRun, h]

theorem compact_of_not_mem {text : String} (h : '\n' ∉ text.toList) : Compact text where
  start := fun hstart => h (List.mem_of_head? hstart)
  calm := fun hrun => h (hrun.subset List.mem_cons_self)
  finish := fun hfinish => h (List.mem_of_getLast? hfinish)

-- A run of breaks does not reach across the seam of two texts where one of them has no break.
section Seams

variable {first second : String}

theorem Calm.append (hfirst : Calm first) (hsecond : Follows second) : Calm (first ++ second) := by
  unfold Calm
  rw [String.toList_append]
  cases hchars : second.toList with
  | nil => rwa [List.append_nil]
  | cons c rest =>
      have hc : c ≠ '\n' := by
        rintro rfl
        exact hsecond.start (by rw [hchars]; rfl)
      rw [infix_append_cons_iff (not_mem_breakRun hc), not_or]
      refine ⟨hfirst, fun hrest => hsecond.calm ?_⟩
      rw [hchars]
      exact hrest.trans (List.suffix_cons c rest).isInfix

theorem Compact.append_calm (hfirst : Compact first) (hsecond : Calm second) :
    Calm (first ++ second) := by
  unfold Calm
  rw [String.toList_append]
  cases hchars : first.toList using List.reverseRecOn with
  | nil => rwa [List.nil_append]
  | append_singleton before c =>
      have hc : c ≠ '\n' := by
        rintro rfl
        exact hfirst.finish (by rw [hchars, List.getLast?_concat])
      rw [List.append_assoc, List.singleton_append, infix_append_cons_iff (not_mem_breakRun hc), not_or]
      refine ⟨fun hbefore => hfirst.calm ?_, hsecond⟩
      rw [hchars]
      exact hbefore.trans (List.prefix_append before [c]).isInfix

theorem Follows.append (hfirst : Follows first) (hsecond : Follows second) :
    Follows (first ++ second) where
  start := by
    rw [String.toList_append, List.head?_append]
    cases hchars : first.toList.head? with
    | none => exact hsecond.start
    | some c =>
        have hstart := hfirst.start
        rwa [hchars] at hstart
  calm := hfirst.calm.append hsecond

theorem Compact.append_follows (hfirst : Compact first) (hne : first ≠ "") (hsecond : Calm second) :
    Follows (first ++ second) where
  start := by
    have hchars : first.toList ≠ [] := by simpa using hne
    rw [String.toList_append, List.head?_append_of_ne_nil _ hchars]
    exact hfirst.start
  calm := hfirst.append_calm hsecond

end Seams

theorem Compact.spaced {first second : String} (hfirst : Compact first) (hsecond : Compact second)
    (hne : first ≠ "") (hne' : second ≠ "") : Compact (first ++ "\n\n" ++ second) where
  toFollows := (hfirst.append_follows hne (by decide)).append hsecond.toFollows
  finish := by
    have hchars : second.toList ≠ [] := by simpa using hne'
    rw [String.toList_append, List.getLast?_append_of_ne_nil _ hchars]
    exact hsecond.finish

theorem compact_paragraphs {texts : List String} (hne : ∀ text ∈ texts, text ≠ "")
    (h : ∀ text ∈ texts, Compact text) : Compact (paragraphs texts) := by
  unfold paragraphs
  induction texts with
  | nil => decide
  | cons text rest ih =>
      have htext : Compact text := h text List.mem_cons_self
      by_cases hrest : rest = []
      · subst hrest
        exact htext
      · have hothers : ∀ other ∈ rest, other ≠ "" := fun other hmem =>
          hne other (List.mem_cons_of_mem text hmem)
        have hjoined := ih hothers fun other hmem => h other (List.mem_cons_of_mem text hmem)
        rw [joined_cons "\n\n" text hrest]
        exact htext.spaced hjoined (hne text List.mem_cons_self)
          (mt (joined_eq_empty_iff "\n\n" hothers).mp hrest)

end Text

namespace Component

open Text

theorem follows_declaration (skipExport : Bool) : Follows (declaration skipExport) := by
  cases skipExport <;> decide

-- The names are on one line, and the blank line after it is the only one.
theorem follows_layoutProps {names : List String} (h : ∀ name ∈ names, Export.IsName name.toList) :
    Follows (layoutProps names ++ "\n") := by
  have hline : '\n' ∉ ("  const layoutProps = " ++ layoutPropsValue names ++ ";").toList := by
    have hvalue := not_mem_layoutPropsValue h (c := '\n') (by decide)
    simp [hvalue]
  have htwo : layoutProps names ++ "\n" =
      "  const layoutProps = " ++ layoutPropsValue names ++ ";" ++ "\n\n" := by
    rw [layoutProps_eq_value, String.append_assoc]
    rfl
  rw [htwo]
  exact (compact_of_not_mem hline).append_follows (by simp) (by decide)

-- The pieces of a component that keep its module free of runs of breaks.
structure Tidy (component : Component) : Prop where
  preamble : Compact component.preamble
  body : Compact component.body
  layout : ∀ expression ∈ component.layout, Calm expression
  exportNames : ∀ name ∈ component.exportNames, Export.IsName name.toList

namespace Tidy

variable {component : Component} (h : Tidy component)
include h

theorem follows_opening : Follows component.opening := by
  delta opening
  split
  · decide
  · next hne => exact h.preamble.append_follows hne (by decide)

theorem calm_layout : Calm (component.layoutExpression?.getD "null") := by
  cases hlayout : component.layoutExpression? with
  | none => decide
  | some expression =>
      delta layoutExpression? at hlayout
      exact h.layout expression (Option.filter_eq_some_iff.mp hlayout).1

-- The expression of the layout may start with a break, and what stands before it does not end with one.
theorem follows_bindings : Follows component.bindings := by
  delta bindings
  rw [@String.append_assoc _ _ "\n"]
  apply Follows.append _ (follows_layoutProps h.exportNames)
  apply Follows.append _ (by decide)
  apply Follows.append _ (by decide)
  exact Compact.append_follows (by decide) (by decide) h.calm_layout

theorem follows_body : Follows (if component.body = "" then "" else component.body ++ "\n") := by
  split
  · decide
  · next hne => exact h.body.append_follows hne (by decide)

theorem follows_wrapper : Follows component.wrapper := by
  delta wrapper
  apply Follows.append _ (by decide)
  apply Follows.append _ h.follows_body
  apply Follows.append _ (by decide)
  apply Follows.append (compact_of_not_mem (by decide)).toFollows
  split
  · exact (compact_of_not_mem (by decide)).toFollows
  · decide

theorem follows_render : Follows component.render := by
  have hopening := h.follows_opening.append (follows_declaration component.skipExport)
  delta render
  exact (hopening.append h.follows_bindings).append h.follows_wrapper

end Tidy

theorem exists_toList_render_eq (component : Component) :
    ∃ text, component.render.toList = text ++ [';', '\n'] := by
  have hclosing : "  </Md>;\n\x7d;\n".toList = "  </Md>;\n\x7d".toList ++ [';', '\n'] := by decide
  delta render wrapper
  rw [← String.append_assoc, String.toList_append, hclosing, ← List.append_assoc]
  exact ⟨_, rfl⟩

end Component

namespace Document

open Text

-- A document whose texts bring no run of breaks has a module without one, however many of its texts
-- are empty, and the module ends with one break.
theorem toModule_leaves_no_break_run {blocks : List Block} {options : Options} {code : String}
    (h : (toModule blocks options).outcome = .ok code) :
    ∃ preamble, (Preamble.build blocks).outcome = .ok preamble ∧
      ((∀ declaration ∈ preamble.declarations, Compact declaration) →
        (∀ fragment ∈ blocks.filterMap Body.fragment?, fragment ≠ "" → Compact fragment) →
        (∀ expression ∈ preamble.layout, Calm expression) →
        ∀ options', ∃ code', (toModule blocks options').outcome = .ok code' ∧ Calm code' ∧
          ∃ text c, c ≠ '\n' ∧ code'.toList = text ++ [c, '\n']) := by
  rw [toModule, Run.outcome_bind] at h
  cases hbuild : (Preamble.build blocks).outcome with
  | error error =>
      rw [hbuild] at h
      cases h
  | ok preamble =>
      refine ⟨preamble, rfl, fun hdeclarations hfragments hlayout options' => ?_⟩
      have hsound := Preamble.sound_of_build hbuild
      have htidy : Component.Tidy { component preamble blocks with skipExport := options'.skipExport } := {
        preamble := compact_paragraphs hsound.declared hdeclarations
        body := compact_paragraphs (fun _ => Body.ne_empty_of_mem_fragments) fun fragment hmem =>
          hfragments fragment (mem_nonempty.mp hmem).1 (mem_nonempty.mp hmem).2
        layout := hlayout
        exportNames := fun _ => hsound.isName_of_mem }
      obtain ⟨text, hfinish⟩ := Component.exists_toList_render_eq
        { component preamble blocks with skipExport := options'.skipExport }
      refine ⟨_, ?_, htidy.follows_render.calm, text, ';', by decide, hfinish⟩
      rw [toModule, Run.outcome_bind, hbuild]
      exact outcome_assemble preamble blocks options'

-- Empty texts stand before, between and after the others, and three of the others have blank lines.
theorem toModule_leaves_no_break_run_empty_texts :
    let blocks : List Block :=
      [.importing "", .prose "", .importing "import a from 'a'\n\nimport b from 'b'", .markup "",
        .prose "<p>\n\n</p>", .importing "", .exporting "export const c = 1", .markup "",
        .exporting "export default A(\n\nB);", .comment "\n", .prose ""]
    ∃ preamble, (Preamble.build blocks).outcome = .ok preamble ∧
      preamble.declarations = ["import a from 'a'\n\nimport b from 'b'", "export const c = 1"] ∧
      preamble.layout = some "A(\n\nB)" ∧
      ∀ options, ∃ code, (toModule blocks options).outcome = .ok code ∧ Calm code ∧
        ∃ text c, c ≠ '\n' ∧ code.toList = text ++ [c, '\n'] := by
  intro blocks
  have hbuild : (Preamble.build blocks).outcome =
      .ok ⟨["import a from 'a'\n\nimport b from 'b'", "export const c = 1"], some "A(\n\nB)", ["c"]⟩ :=
    Error.eq_ok_of_toOption (by decide +kernel)
  have hnone := (Preamble.outcome_build_eq_ok_iff.mp hbuild).1
  obtain ⟨code, hcode⟩ := exists_code_of_not_rejected hnone {}
  obtain ⟨preamble, hsame, hcalm⟩ := toModule_leaves_no_break_run hcode
  obtain rfl := Except.ok.inj (hbuild.symm.trans hsame)
  exact ⟨_, hbuild, rfl, rfl, hcalm (by decide +kernel) (by decide +kernel) (by decide +kernel)⟩

end Document

end DocModule
