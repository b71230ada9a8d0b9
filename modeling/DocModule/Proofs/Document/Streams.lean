import DocModule.Proofs.Document.Outcome

namespace DocModule

namespace Block

-- A statement, prose or markup without any text. Such a block leaves no trace in a module.
def isVoid : Block → Bool
  | .importing text | .exporting text | .prose text | .markup text => text = ""
  | .frontmatter _ | .code _ _ | .comment _ => false

def isDeclaration (block : Block) : Bool :=
  block.kind ∈ [.frontmatter, .importing, .exporting]

def isRenderable (block : Block) : Bool :=
  block.kind.isRenderable

theorem isDeclaration_eq_not_isRenderable (block : Block) :
    block.isDeclaration = !block.isRenderable := by
  cases block <;> rfl

end Block

namespace Document

-- The blocks that matter above the component of a module, in order.
def declarationStream (blocks : List Block) : List Block :=
  (blocks.filter Block.isDeclaration).filter (!·.isVoid)

-- The blocks that matter in its body, in order.
def bodyStream (blocks : List Block) : List Block :=
  (blocks.filter Block.isRenderable).filter (!·.isVoid)

end Document

namespace Preamble

-- A block that no preamble shows: it neither fails one nor adds anything to it.
structure Silent (block : Block) : Prop where
  rejection : rejection? block = none
  contribution : summary [block] = empty

theorem silent_of_renderable {block : Block} (h : block.isRenderable) : Silent block := by
  cases block with
  | prose _ | code _ _ | markup _ | comment _ => exact ⟨rfl, rfl⟩
  | frontmatter _ | importing _ | exporting _ => cases h

-- A statement without any text is passed on like any other, and then dropped as empty.
theorem silent_of_void {block : Block} (h : block.isVoid) : Silent block := by
  cases block with
  | prose _ | markup _ => exact ⟨rfl, rfl⟩
  | importing text | exporting text =>
      obtain rfl : text = "" := of_decide_eq_true h
      exact ⟨rfl, rfl⟩
  | frontmatter _ | code _ _ | comment _ => cases h

variable {keep : Block → Bool}

theorem findSome?_rejection_filter (h : ∀ block, keep block = false → Silent block)
    (blocks : List Block) :
    (blocks.filter keep).findSome? rejection? = blocks.findSome? rejection? := by
  induction blocks with
  | nil => rfl
  | cons block blocks ih =>
      cases hk : keep block with
      | false => simpa [hk, (h block hk).rejection] using ih
      | true => simp [hk, List.findSome?_cons, ih]

theorem summary_filter (h : ∀ block, keep block = false → Silent block) (blocks : List Block) :
    summary (blocks.filter keep) = summary blocks := by
  induction blocks with
  | nil => rfl
  | cons block blocks ih =>
      cases hk : keep block with
      | false =>
          rw [List.filter_cons_of_neg (by simp [hk]), summary_cons block blocks,
            (h block hk).contribution, empty_append, ih]
      | true => rw [List.filter_cons_of_pos hk, summary_cons block blocks, ← ih, ← summary_cons]

end Preamble

namespace Body

variable {keep : Block → Bool}

theorem fragments_append (blocks others : List Block) :
    fragments (blocks ++ others) = fragments blocks ++ fragments others := by
  simp [fragments]

theorem fragments_of_declaration {block : Block} (h : block.isDeclaration) :
    fragments [block] = [] := by
  cases block with
  | frontmatter _ | importing _ | exporting _ => rfl
  | prose _ | code _ _ | markup _ | comment _ => cases h

theorem fragments_of_void {block : Block} (h : block.isVoid) : fragments [block] = [] := by
  cases block with
  | importing _ | exporting _ => rfl
  | prose text | markup text =>
      obtain rfl : text = "" := of_decide_eq_true h
      rfl
  | frontmatter _ | code _ _ | comment _ => cases h

theorem fragments_filter (h : ∀ block, keep block = false → fragments [block] = [])
    (blocks : List Block) : fragments (blocks.filter keep) = fragments blocks := by
  induction blocks with
  | nil => rfl
  | cons block blocks ih =>
      have hcons : fragments (block :: blocks) = fragments [block] ++ fragments blocks :=
        fragments_append [block] blocks
      cases hk : keep block with
      | false => rw [List.filter_cons_of_neg (by simp [hk]), hcons, h block hk, ih, List.nil_append]
      | true =>
          rw [List.filter_cons_of_pos hk, hcons, ← ih]
          exact fragments_append [block] (blocks.filter keep)

end Body

namespace Document

theorem preamble_declarationStream (blocks : List Block) :
    (declarationStream blocks).findSome? Preamble.rejection? =
        blocks.findSome? Preamble.rejection? ∧
      Preamble.summary (declarationStream blocks) = Preamble.summary blocks := by
  have hvoid : ∀ block : Block, (!block.isVoid) = false → Preamble.Silent block := fun block h =>
    Preamble.silent_of_void (by simpa using h)
  have hrender : ∀ block : Block, block.isDeclaration = false → Preamble.Silent block :=
    fun block h => Preamble.silent_of_renderable (by
      simpa [Block.isDeclaration_eq_not_isRenderable] using h)
  rw [declarationStream]
  constructor
  · rw [Preamble.findSome?_rejection_filter hvoid, Preamble.findSome?_rejection_filter hrender]
  · rw [Preamble.summary_filter hvoid, Preamble.summary_filter hrender]

theorem fragments_bodyStream (blocks : List Block) :
    Body.fragments (bodyStream blocks) = Body.fragments blocks := by
  rw [bodyStream, Body.fragments_filter, Body.fragments_filter]
  · intro block h
    have hdeclaration := Block.isDeclaration_eq_not_isRenderable block
    exact Body.fragments_of_declaration (by simpa [h] using hdeclaration)
  · intro block h
    exact Body.fragments_of_void (by simpa using h)

-- The two streams are all that the outcome of a document depends on.
theorem outcome_eq_of_streams_eq {xs ys : List Block}
    (hdeclarations : declarationStream xs = declarationStream ys)
    (hbodies : bodyStream xs = bodyStream ys) (options : Options) :
    (toModule xs options).outcome = (toModule ys options).outcome := by
  have hfragments : Body.fragments xs = Body.fragments ys := by
    rw [← fragments_bodyStream xs, hbodies, fragments_bodyStream]
  obtain ⟨hrejection, hsummary⟩ := preamble_declarationStream xs
  rw [hdeclarations, (preamble_declarationStream ys).1] at hrejection
  rw [hdeclarations, (preamble_declarationStream ys).2] at hsummary
  rw [outcome_toModule, outcome_toModule, outcome_assemble, outcome_assemble, Body.text, Body.text,
    hfragments, hrejection, hsummary]

end Document

-- A list that holds the elements of two others, those of each in their order.
inductive Interleaving {α : Type} : List α → List α → List α → Prop
  | nil : Interleaving [] [] []
  | left {x : α} {xs ys zs : List α} : Interleaving xs ys zs → Interleaving (x :: xs) ys (x :: zs)
  | right {y : α} {xs ys zs : List α} : Interleaving xs ys zs → Interleaving xs (y :: ys) (y :: zs)

namespace Interleaving

variable {α : Type} {xs ys zs : List α} {keep : α → Bool}

-- A property that tells the two lists apart gives the first one back.
theorem filter_left (h : Interleaving xs ys zs) (hx : ∀ x ∈ xs, keep x = true)
    (hy : ∀ y ∈ ys, keep y = false) : zs.filter keep = xs := by
  induction h with
  | nil => rfl
  | @left x xs ys zs _ ih =>
      have hrest := ih (fun x hmem => hx x (List.mem_cons_of_mem _ hmem)) hy
      rw [List.filter_cons_of_pos (hx x List.mem_cons_self), hrest]
  | @right y xs ys zs _ ih =>
      have hrest := ih hx fun y hmem => hy y (List.mem_cons_of_mem _ hmem)
      rw [List.filter_cons_of_neg (by simp [hy y List.mem_cons_self]), hrest]

theorem swap (h : Interleaving xs ys zs) : Interleaving ys xs zs := by
  induction h with
  | nil => exact .nil
  | left _ ih => exact .right ih
  | right _ ih => exact .left ih

end Interleaving

namespace Document

-- The outcome of a document depends on its two streams alone. So it does not matter how
-- declarations and body are interleaved, nor where blocks without any text stand.
theorem outcome_determined_by_streams (options : Options) :
    (∀ xs ys, declarationStream xs = declarationStream ys → bodyStream xs = bodyStream ys →
      (toModule xs options).outcome = (toModule ys options).outcome) ∧
    (∀ declarations bodies xs ys, (∀ block ∈ declarations, block.isDeclaration) →
      (∀ block ∈ bodies, block.isRenderable) → Interleaving declarations bodies xs →
      Interleaving declarations bodies ys →
      (toModule xs options).outcome = (toModule ys options).outcome) ∧
    (∀ before voids after, (∀ block ∈ voids, block.isVoid) →
      (toModule (before ++ voids ++ after) options).outcome =
        (toModule (before ++ after) options).outcome) := by
  refine ⟨fun xs ys hd hb => outcome_eq_of_streams_eq hd hb options, ?_, ?_⟩
  · intro declarations bodies xs ys hdeclarations hbodies hxs hys
    have hd : ∀ block ∈ bodies, block.isDeclaration = false := fun block hmem => by
      rw [Block.isDeclaration_eq_not_isRenderable, hbodies block hmem]
      rfl
    have hb : ∀ block ∈ declarations, block.isRenderable = false := fun block hmem => by
      have h := hdeclarations block hmem
      rw [Block.isDeclaration_eq_not_isRenderable] at h
      simpa using h
    apply outcome_eq_of_streams_eq
    · rw [declarationStream, declarationStream, hxs.filter_left hdeclarations hd,
        hys.filter_left hdeclarations hd]
    · rw [bodyStream, bodyStream, hxs.swap.filter_left hbodies hb, hys.swap.filter_left hbodies hb]
  · intro before voids after hvoids
    have hnone : ∀ keep : Block → Bool, (voids.filter keep).filter (!·.isVoid) = [] := by
      intro keep
      rw [List.filter_eq_nil_iff]
      intro block hmem
      simp [hvoids block (List.mem_filter.mp hmem).1]
    apply outcome_eq_of_streams_eq
    · simp only [declarationStream, List.filter_append, hnone, List.append_nil]
    · simp only [bodyStream, List.filter_append, hnone, List.append_nil]

theorem outcome_determined_by_streams_mixed :
    let xs : List Block :=
      [.prose "<p/>", .importing "import A from './A'", .markup "", .exporting "export default A"]
    let ys : List Block :=
      [.importing "import A from './A'", .exporting "", .exporting "export default A", .prose "<p/>"]
    declarationStream xs = declarationStream ys ∧ bodyStream xs = bodyStream ys ∧
      (toModule xs {}).outcome = (toModule ys {}).outcome :=
  ⟨rfl, rfl, (outcome_determined_by_streams {}).1 _ _ rfl rfl⟩

end Document

end DocModule
