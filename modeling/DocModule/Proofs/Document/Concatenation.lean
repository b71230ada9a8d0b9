import DocModule.Proofs.Document.Streams

namespace DocModule

open Text

namespace Body

theorem ne_empty_of_mem_fragments {blocks : List Block} {fragment : String}
    (h : fragment ∈ fragments blocks) : fragment ≠ "" :=
  (mem_nonempty.mp h).2

theorem outcome_build (blocks : List Block) : (build blocks).outcome = .ok (text blocks) :=
  rfl

theorem text_append (blocks others : List Block) :
    text (blocks ++ others) = spaced (text blocks) (text others) := by
  rw [text, fragments_append]
  exact paragraphs_append (fun _ => ne_empty_of_mem_fragments) (fun _ => ne_empty_of_mem_fragments)

end Body

namespace Preamble

theorem outcome_build_eq_error_iff {blocks : List Block} {error : Error} :
    (build blocks).outcome = .error error ↔ blocks.findSome? rejection? = some error := by
  rw [outcome_build]
  cases blocks.findSome? rejection? <;> simp

theorem outcome_build_eq_ok_iff {blocks : List Block} {preamble : Preamble} :
    (build blocks).outcome = .ok preamble ↔
      blocks.findSome? rejection? = none ∧ preamble = summary blocks := by
  rw [outcome_build]
  cases blocks.findSome? rejection? <;> simp [eq_comm]

theorem ne_empty_of_mem_declarations {blocks : List Block} {preamble : Preamble}
    (h : (build blocks).outcome = .ok preamble) :
    ∀ declaration ∈ preamble.declarations, declaration ≠ "" := by
  obtain ⟨_, rfl⟩ := outcome_build_eq_ok_iff.mp h
  intro declaration hmem
  exact (mem_nonempty.mp hmem).2

-- A document that fails, fails whatever follows it.
theorem outcome_build_append_of_error {blocks : List Block} {error : Error}
    (h : (build blocks).outcome = .error error) (others : List Block) :
    (build (blocks ++ others)).outcome = .error error := by
  rw [outcome_build_eq_error_iff] at h ⊢
  rw [List.findSome?_append, h]
  rfl

theorem outcome_build_append_of_ok {blocks : List Block} {preamble : Preamble}
    (h : (build blocks).outcome = .ok preamble) (others : List Block) :
    (build (blocks ++ others)).outcome =
      (build others).outcome.bind fun next => .ok (preamble.append next) := by
  obtain ⟨hnone, rfl⟩ := outcome_build_eq_ok_iff.mp h
  rw [outcome_build, outcome_build, List.findSome?_append, hnone, summary_append, Error.before_bind]
  rfl

theorem text_append {first second : Preamble}
    (hfirst : ∀ declaration ∈ first.declarations, declaration ≠ "")
    (hsecond : ∀ declaration ∈ second.declarations, declaration ≠ "") :
    (first.append second).text = spaced first.text second.text :=
  paragraphs_append hfirst hsecond

-- What one preamble adds to another stands at its end.
theorem exists_outcome_build_of_prefix {shorter longer : List Block} (h : shorter <+: longer)
    {whole : Preamble} (hwhole : (build longer).outcome = .ok whole) :
    ∃ part, (build shorter).outcome = .ok part ∧ part.declarations <+: whole.declarations ∧
      part.exportNames <+: whole.exportNames := by
  obtain ⟨others, rfl⟩ := h
  cases hshorter : (build shorter).outcome with
  | error error =>
      rw [outcome_build_append_of_error hshorter others] at hwhole
      cases hwhole
  | ok part =>
      obtain ⟨_, rfl⟩ := outcome_build_eq_ok_iff.mp hwhole
      obtain ⟨_, rfl⟩ := outcome_build_eq_ok_iff.mp hshorter
      rw [summary_append]
      exact ⟨_, rfl, List.prefix_append _ _, List.prefix_append _ _⟩

end Preamble

namespace Document

-- What becomes of one document after another, from what becomes of each. The body and the preamble
-- are put together piece by piece, and the first document that fails counts. So while a document
-- grows, its preamble grows at the end until it fails, and then it fails the same way for good.
theorem build_append (xs ys : List Block) :
    (∃ first second, (Body.build xs).outcome = .ok first ∧ (Body.build ys).outcome = .ok second ∧
      (Body.build (xs ++ ys)).outcome = .ok (spaced first second)) ∧
    (∀ error, (Preamble.build xs).outcome = .error error →
      (Preamble.build (xs ++ ys)).outcome = .error error) ∧
    (∀ first error, (Preamble.build xs).outcome = .ok first →
      (Preamble.build ys).outcome = .error error →
      (Preamble.build (xs ++ ys)).outcome = .error error) ∧
    (∀ first second, (Preamble.build xs).outcome = .ok first →
      (Preamble.build ys).outcome = .ok second →
      ∃ whole, (Preamble.build (xs ++ ys)).outcome = .ok whole ∧
        whole.declarations = first.declarations ++ second.declarations ∧
        whole.exportNames = first.exportNames ++ second.exportNames ∧
        whole.layout = second.layout.or first.layout ∧
        whole.text = spaced first.text second.text) ∧
    (∀ shorter longer, shorter <+: longer →
      (∀ error, (Preamble.build shorter).outcome = .error error →
        (Preamble.build longer).outcome = .error error) ∧
      (∀ whole, (Preamble.build longer).outcome = .ok whole →
        ∃ part, (Preamble.build shorter).outcome = .ok part ∧
          part.declarations <+: whole.declarations ∧ part.exportNames <+: whole.exportNames)) := by
  refine ⟨?_, ?_, ?_, ?_, ?_⟩
  · refine ⟨_, _, Body.outcome_build xs, Body.outcome_build ys, ?_⟩
    rw [Body.outcome_build, Body.text_append]
  · intro error h
    exact Preamble.outcome_build_append_of_error h ys
  · intro first error hfirst herror
    rw [Preamble.outcome_build_append_of_ok hfirst, herror]
    rfl
  · intro first second hfirst hsecond
    refine ⟨first.append second, ?_, rfl, rfl, rfl, ?_⟩
    · rw [Preamble.outcome_build_append_of_ok hfirst, hsecond]
      rfl
    · exact Preamble.text_append (Preamble.ne_empty_of_mem_declarations hfirst)
        (Preamble.ne_empty_of_mem_declarations hsecond)
  · intro shorter longer hprefix
    refine ⟨fun error h => ?_, fun whole h => Preamble.exists_outcome_build_of_prefix hprefix h⟩
    obtain ⟨others, rfl⟩ := hprefix
    exact Preamble.outcome_build_append_of_error h others

theorem build_append_mixed :
    let xs : List Block := [.importing "import A from './A'", .prose "<p/>", .exporting ""]
    let ys : List Block := [.exporting "export const b = 1", .exporting "export default A"]
    let zs : List Block := [.exporting "export \x7b A as default \x7d"]
    let rejection := Error.rejectedExport .localAlias "export \x7b A as default \x7d"
    (∃ whole, (Preamble.build (xs ++ ys)).outcome = .ok whole ∧ whole.layout = some "A" ∧
      whole.text = "import A from './A'\n\nexport const b = 1") ∧
    (Preamble.build (xs ++ zs)).outcome = .error rejection ∧
    (Preamble.build ((xs ++ zs) ++ ys)).outcome = .error rejection := by
  intro xs ys zs rejection
  have hxs : (Preamble.build xs).outcome = .ok ⟨["import A from './A'"], none, []⟩ :=
    Error.eq_ok_of_toOption (by decide +kernel)
  have hys : (Preamble.build ys).outcome = .ok ⟨["export const b = 1"], some "A", ["b"]⟩ :=
    Error.eq_ok_of_toOption (by decide +kernel)
  have hclass : Export.classify "export \x7b A as default \x7d" = .rejected .localAlias := by
    decide +kernel
  have hzs : (Preamble.build zs).outcome = .error rejection :=
    Preamble.outcome_build_eq_error_iff.mpr (by simp [zs, rejection, Preamble.rejection?, hclass])
  obtain ⟨whole, hwhole, -, -, hlayout, htext⟩ := (build_append xs ys).2.2.2.1 _ _ hxs hys
  have hfails := (build_append xs zs).2.2.1 _ _ hxs hzs
  exact ⟨⟨whole, hwhole, hlayout, htext⟩, hfails, (build_append (xs ++ zs) ys).2.1 _ hfails⟩

end Document

end DocModule
