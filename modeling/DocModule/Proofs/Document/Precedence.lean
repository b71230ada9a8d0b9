import DocModule.Proofs.Document.Entries

namespace DocModule

namespace Entry

-- An export that no document may hold.
def IsRejected (entry : Entry) : Prop :=
  ∃ src form, entry = .known (.exporting src) ∧ Export.classify src = .rejected form

-- A text fails to be read if it is no array, or else by its first item that fails. The items before
-- that one may be of an unknown kind, or exports that are rejected.
theorem ofText_eq_error_iff (text : String) (error : Error) :
    ofText text = .error error ↔
      ((∀ items, Json.parse? text ≠ some (.array items)) ∧ error = .notBlocks) ∨
      ∃ before item after, Json.parse? text = some (.array (before ++ item :: after)) ∧
        (∀ other ∈ before, ∃ entry, ofJson other = .ok entry) ∧ ofJson item = .error error := by
  rw [ofText]
  split
  · next items hparse =>
    rw [Error.mapM_eq_error_iff, hparse]
    simp
  · next hparse =>
    constructor
    · intro h
      exact .inl ⟨hparse, (Except.error.inj h).symm⟩
    · rintro (⟨_, rfl⟩ | ⟨before, item, after, h, _⟩)
      · rfl
      · exact absurd h (hparse _)

-- Frontmatter given as a text fails by what is wrong with the text.
theorem ofJson_of_bad_frontmatter {item : Json} {src : String} {fault : Frontmatter.Error}
    (htype : item.field? "type" = some (.string "yaml")) (hprops : item.field? "props" = none)
    (hsrc : item.field? "src" = some (.string src)) (hfault : Frontmatter.parse src = .error fault) :
    ofJson item = .error (.frontmatter fault) := by
  have hkind : Kind.ofTag? "yaml" = some .frontmatter := rfl
  simp only [ofJson, htype, Option.bind_some, Json.string?, hkind, Block.ofEntry, Block.propsField,
    hprops, hsrc, hfault]
  rfl

end Entry

namespace Document

theorem findSome?_rejection_eq_none_iff {entries : List Entry} :
    (knownBlocks entries).findSome? Preamble.rejection? = none ↔
      ∀ entry ∈ entries, ¬ entry.IsRejected := by
  rw [List.findSome?_eq_none_iff]
  constructor
  · rintro h entry hmem ⟨src, form, rfl, hclass⟩
    have hnone := h (.exporting src) (mem_knownBlocks.mpr hmem)
    simp [Preamble.rejection?, hclass] at hnone
  · intro h block hmem
    rw [Option.eq_none_iff_forall_ne_some]
    intro error hsome
    obtain ⟨src, form, rfl, hclass, _⟩ := Preamble.rejection?_eq_some_iff.mp hsome
    exact h _ (mem_knownBlocks.mp hmem) ⟨src, form, rfl, hclass⟩

theorem isRejected_of_findSome? {entries : List Entry} {error : Error}
    (h : (knownBlocks entries).findSome? Preamble.rejection? = some error) :
    (∃ form src, error = .rejectedExport form src) ∧ ∃ entry ∈ entries, entry.IsRejected := by
  obtain ⟨block, hmem, hblock⟩ := List.exists_of_findSome?_eq_some h
  obtain ⟨src, form, rfl, hclass, rfl⟩ := Preamble.rejection?_eq_some_iff.mp hblock
  exact ⟨⟨form, src, rfl⟩, .known (.exporting src), mem_knownBlocks.mp hmem, src, form, rfl, hclass⟩

theorem findSome?_rejection_of_first {before after : List Entry} {src : String} {form : ReExport}
    (hbefore : ∀ entry ∈ before, ¬ entry.IsRejected) (hclass : Export.classify src = .rejected form) :
    (knownBlocks (before ++ .known (.exporting src) :: after)).findSome? Preamble.rejection? =
      some (.rejectedExport form src) := by
  have hknown : knownBlocks (before ++ .known (.exporting src) :: after) =
      knownBlocks before ++ .exporting src :: knownBlocks after := by
    simp [knownBlocks]
  rw [hknown, List.findSome?_append, findSome?_rejection_eq_none_iff.mpr hbefore]
  simp [Preamble.rejection?, hclass]

theorem head?_unknownTags_of_first {before after : List Entry} {tag : String}
    (hbefore : ∀ entry ∈ before, ∃ block, entry = .known block) :
    (unknownTags (before ++ .unknown tag :: after)).head? = some tag := by
  have hnone : unknownTags before = [] := by
    rw [List.eq_nil_iff_forall_not_mem]
    intro other hmem
    obtain ⟨block, h⟩ := hbefore _ (mem_unknownTags.mp hmem)
    cases h
  have happend : unknownTags (before ++ .unknown tag :: after) =
      unknownTags before ++ tag :: unknownTags after := by
    simp [unknownTags]
  rw [happend, hnone]
  rfl

theorem outcome_of_unreadable {text : String} {error : Error} (h : Entry.ofText text = .error error)
    (options : Options) : (toModuleOfText text options).outcome = .error error := by
  rw [outcome_toModuleOfText, h]
  rfl

theorem outcome_of_readable {text : String} {entries : List Entry}
    (h : Entry.ofText text = .ok entries) (options : Options) :
    (toModuleOfText text options).outcome =
      Error.before ((knownBlocks entries).findSome? Preamble.rejection?)
        (Error.before ((unknownTags entries).head?.map .unknownKind)
          (toModule (knownBlocks entries) options).outcome) := by
  rw [outcome_toModuleOfText, h]
  exact outcome_toModuleOfEntries entries options

-- The outcome of reading all blocks strictly, and then making a module of them.
def strictOutcome (text : String) (options : Options) : Except Error String :=
  (Block.ofText text).bind fun blocks => (toModule blocks options).outcome

theorem strictOutcome_of_unreadable {text : String} {error : Error}
    (h : Entry.ofText text = .error error) (options : Options) :
    strictOutcome text options = .error error := by
  rw [strictOutcome, Block.ofText, h]
  rfl

theorem strictOutcome_of_readable {text : String} {entries : List Entry}
    (h : Entry.ofText text = .ok entries) (options : Options) :
    strictOutcome text options =
      Error.before ((unknownTags entries).head?.map .unknownKind)
        (toModule (knownBlocks entries) options).outcome := by
  rw [strictOutcome, Block.ofText, h]
  change (entries.mapM Entry.block).bind _ = _
  rw [mapM_block, Error.before_bind]
  rfl

-- A text that can be read, with an entry of an unknown kind and a rejected export.
def Clash (text : String) : Prop :=
  ∃ entries, Entry.ofText text = .ok entries ∧ (∃ tag, .unknown tag ∈ entries) ∧
    ∃ entry ∈ entries, entry.IsRejected

-- In a clash one way reports the export and the other one the tag.
theorem outcomes_of_clash {text : String} (h : Clash text) (options : Options) :
    (∃ form src, (toModuleOfText text options).outcome = .error (.rejectedExport form src)) ∧
      ∃ tag, strictOutcome text options = .error (.unknownKind tag) := by
  obtain ⟨entries, hread, ⟨tag, htag⟩, entry, hentry, hrejected⟩ := h
  constructor
  · have hsome : (knownBlocks entries).findSome? Preamble.rejection? ≠ none := fun hnone =>
      findSome?_rejection_eq_none_iff.mp hnone entry hentry hrejected
    obtain ⟨error, herror⟩ := Option.ne_none_iff_exists'.mp hsome
    obtain ⟨⟨form, src, rfl⟩, _⟩ := isRejected_of_findSome? herror
    refine ⟨form, src, ?_⟩
    rw [outcome_of_readable hread, herror, Error.before_some]
  · have hne : unknownTags entries ≠ [] := fun hnil => unknownTags_eq_nil_iff.mp hnil tag htag
    obtain ⟨first, rest, htags⟩ := List.exists_cons_of_ne_nil hne
    refine ⟨first, ?_⟩
    rw [strictOutcome_of_readable hread, htags]
    rfl

-- Without a clash the two ways agree, whatever else is wrong with the text.
theorem outcome_eq_strictOutcome {text : String} (h : ¬ Clash text) (options : Options) :
    (toModuleOfText text options).outcome = strictOutcome text options := by
  cases hread : Entry.ofText text with
  | error error => rw [outcome_of_unreadable hread, strictOutcome_of_unreadable hread]
  | ok entries =>
      rw [outcome_of_readable hread, strictOutcome_of_readable hread]
      cases hrejection : (knownBlocks entries).findSome? Preamble.rejection? with
      | none => rfl
      | some error =>
          have hknown : unknownTags entries = [] := by
            rw [unknownTags_eq_nil_iff]
            intro tag htag
            exact h ⟨entries, hread, ⟨tag, htag⟩, (isRejected_of_findSome? hrejection).2⟩
          rw [hknown, outcome_toModule, hrejection]
          rfl

-- Which fault of a text counts. Whatever stands before the entry that counts is only asked not to
-- hold one that would count instead.
structure Precedence (text : String) (options : Options) (outcome : Except Error String) : Prop where
  unreadable : ∀ error, Entry.ofText text = .error error → outcome = .error error
  notArray : (∀ items, Json.parse? text ≠ some (.array items)) → outcome = .error .notBlocks
  malformed : ∀ before item after error,
    Json.parse? text = some (.array (before ++ item :: after)) →
    (∀ other ∈ before, ∃ entry, Entry.ofJson other = .ok entry) →
    Entry.ofJson item = .error error → outcome = .error error
  badFrontmatter : ∀ before item after src fault,
    Json.parse? text = some (.array (before ++ item :: after)) →
    (∀ other ∈ before, ∃ entry, Entry.ofJson other = .ok entry) →
    item.field? "type" = some (.string "yaml") → item.field? "props" = none →
    item.field? "src" = some (.string src) → Frontmatter.parse src = .error fault →
    outcome = .error (.frontmatter fault)
  rejected : ∀ before src form after,
    Entry.ofText text = .ok (before ++ .known (.exporting src) :: after) →
    (∀ entry ∈ before, ¬ entry.IsRejected) → Export.classify src = .rejected form →
    outcome = .error (.rejectedExport form src)
  unknown : ∀ before tag after,
    Entry.ofText text = .ok (before ++ .unknown tag :: after) →
    (∀ entry ∈ before, ∃ block, entry = .known block) →
    (∀ entry ∈ before ++ .unknown tag :: after, ¬ entry.IsRejected) →
    outcome = .error (.unknownKind tag)
  accepted : ∀ blocks, Entry.ofText text = .ok (blocks.map .known) →
    (∀ entry ∈ blocks.map Entry.known, ¬ entry.IsRejected) →
    ∃ code, (toModule blocks options).outcome = .ok code ∧ outcome = .ok code

theorem precedence (text : String) (options : Options) :
    Precedence text options (toModuleOfText text options).outcome where
  unreadable error h := outcome_of_unreadable h options
  notArray h := by
    apply outcome_of_unreadable
    exact (Entry.ofText_eq_error_iff text _).mpr (.inl ⟨h, rfl⟩)
  malformed before item after error hparse hbefore hitem := by
    apply outcome_of_unreadable
    exact (Entry.ofText_eq_error_iff text _).mpr (.inr ⟨before, item, after, hparse, hbefore, hitem⟩)
  badFrontmatter before item after src fault hparse hbefore htype hprops hsrc hfault := by
    have hitem := Entry.ofJson_of_bad_frontmatter htype hprops hsrc hfault
    apply outcome_of_unreadable
    exact (Entry.ofText_eq_error_iff text _).mpr (.inr ⟨before, item, after, hparse, hbefore, hitem⟩)
  rejected before src form after hread hbefore hclass := by
    rw [outcome_of_readable hread, findSome?_rejection_of_first hbefore hclass, Error.before_some]
  unknown before tag after hread hbefore hnone := by
    rw [outcome_of_readable hread, findSome?_rejection_eq_none_iff.mpr hnone,
      head?_unknownTags_of_first hbefore]
    rfl
  accepted blocks hread hnone := by
    have hrejection := findSome?_rejection_eq_none_iff.mpr hnone
    rw [outcome_of_readable hread, hrejection, Error.before_none, unknownTags_map_known]
    rw [knownBlocks_map_known] at hrejection ⊢
    obtain ⟨code, hcode⟩ := exists_code_of_not_rejected hrejection options
    exact ⟨code, hcode, hcode⟩

-- The order in which faults count, and the one kind of text on which reading all blocks strictly
-- would give another answer.
theorem toModuleOfText_precedence (text : String) (options : Options) :
    Precedence text options (toModuleOfText text options).outcome ∧
    ((toModuleOfText text options).outcome = strictOutcome text options ↔ ¬ Clash text) ∧
    (Clash text →
      (∃ form src, (toModuleOfText text options).outcome = .error (.rejectedExport form src)) ∧
        ∃ tag, strictOutcome text options = .error (.unknownKind tag)) := by
  refine ⟨precedence text options, ⟨?_, fun h => outcome_eq_strictOutcome h options⟩,
    fun h => outcomes_of_clash h options⟩
  intro heq h
  obtain ⟨⟨form, src, hrejected⟩, tag, hunknown⟩ := outcomes_of_clash h options
  rw [hrejected, hunknown] at heq
  cases heq

theorem toModuleOfText_precedence_clash :
    let text :=
      "[\x7b\"type\":\"table\"\x7d," ++
        "\x7b\"type\":\"export\",\"src\":\"export \x7b default \x7d from './A'\"\x7d]"
    Clash text ∧ (toModuleOfText text {}).outcome ≠ strictOutcome text {} := by
  intro text
  have hread : Entry.ofText text =
      .ok [.unknown "table", .known (.exporting "export \x7b default \x7d from './A'")] :=
    Error.eq_ok_of_toOption (by decide +kernel)
  have hclass : Export.classify "export \x7b default \x7d from './A'" = .rejected .fromModule := by
    decide +kernel
  have hclash : Clash text := ⟨_, hread, ⟨"table", by simp⟩, _, by simp, _, _, rfl, hclass⟩
  exact ⟨hclash, fun heq => (toModuleOfText_precedence text {}).2.1.mp heq hclash⟩

end Document

end DocModule
