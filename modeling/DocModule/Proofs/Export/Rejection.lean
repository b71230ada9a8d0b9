import DocModule.Export.Lemmas
import DocModule.Proofs.Text.Split

namespace DocModule.Export

open Text

-- Blanks only, possibly none.
def Blanks (text : List Char) : Prop :=
  ∀ c ∈ text, isBlank c

-- The end of a text, or a character that ends a word.
def EndsWord (next : Option Char) : Prop :=
  ∀ c ∈ next, isWord c = false

theorem atWordEnd_iff {text : List Char} : atWordEnd text ↔ EndsWord text.head? := by
  cases text <;> simp [atWordEnd, EndsWord]

theorem not_mem_brace_of_blanks {text : List Char} (h : Blanks text) : '\x7d' ∉ text := by
  intro hmem
  exact absurd (h _ hmem) (by decide)

theorem blanks_space : Blanks [' '] := by
  simp [Blanks]

theorem blanks_reverse {text : List Char} : Blanks text.reverse ↔ Blanks text := by
  simp [Blanks]

theorem exists_blanks_trimStart (text : List Char) :
    ∃ blanks, Blanks blanks ∧ text = blanks ++ trimStart text :=
  ⟨text.takeWhile isBlank, fun c => List.all_eq_true.mp List.all_takeWhile c,
    List.takeWhile_append_dropWhile.symm⟩

section Word

variable (word : String) (hword : word.toList.head?.any (!isBlank ·)) {text rest : List Char}
include hword

theorem head?_word_append (rest : List Char) : (word.toList ++ rest).head?.all (!isBlank ·) := by
  cases h : word.toList with
  | nil => simp [h] at hword
  | cons c cs => simpa [h] using hword

-- A word after any number of blanks. Those that are skipped are all there are, since the word does
-- not start with one.
theorem afterWord?_trimStart_eq_some_iff :
    afterWord? word (trimStart text) = some rest ↔
      ∃ blanks, Blanks blanks ∧ text = blanks ++ word.toList ++ rest := by
  rw [afterWord?_eq_some_iff]
  constructor
  · intro h
    obtain ⟨blanks, hblanks, htext⟩ := exists_blanks_trimStart text
    exact ⟨blanks, hblanks, by rw [htext, h, List.append_assoc]⟩
  · rintro ⟨blanks, hblanks, rfl⟩
    rw [List.append_assoc]
    exact trimStart_append hblanks (head?_word_append word hword rest)

-- A word after one blank or more.
theorem exists_afterBlanks?_afterWord?_iff :
    (∃ start, afterBlanks? text = some start ∧ afterWord? word start = some rest) ↔
      ∃ blanks, blanks ≠ [] ∧ Blanks blanks ∧ text = blanks ++ word.toList ++ rest := by
  simp only [afterBlanks?_eq_some_iff, afterWord?_eq_some_iff]
  constructor
  · rintro ⟨_, ⟨blanks, hne, hblanks, rfl, -⟩, rfl⟩
    exact ⟨blanks, hne, hblanks, (List.append_assoc ..).symm⟩
  · rintro ⟨blanks, hne, hblanks, rfl⟩
    exact ⟨_, ⟨blanks, hne, hblanks, List.append_assoc .., head?_word_append word hword rest⟩, rfl⟩

end Word

-- A statement with names between braces, and what follows them.
def IsNameList (text names tail : List Char) : Prop :=
  ∃ blanks, Blanks blanks ∧ '\x7d' ∉ names ∧
    text = "export".toList ++ blanks ++ '\x7b' :: names ++ '\x7d' :: tail

-- The name default and nothing else.
def IsDefaultAlone (names : List Char) : Prop :=
  ∃ before after, Blanks before ∧ Blanks after ∧ names = before ++ "default".toList ++ after

-- A clause that names another module.
def IsFromClause (tail : List Char) : Prop :=
  ∃ blanks rest, Blanks blanks ∧ EndsWord rest.head? ∧ tail = blanks ++ "from".toList ++ rest

-- Names that end in an alias to the name default.
def EndsInDefaultAlias (names : List Char) : Prop :=
  ∃ before between after, EndsWord before.getLast? ∧ between ≠ [] ∧ Blanks between ∧ Blanks after ∧
    names = before ++ "as".toList ++ between ++ "default".toList ++ after

theorem afterBrace?_eq_some_iff {text rest : List Char} :
    afterBrace? text = some rest ↔
      ∃ blanks, Blanks blanks ∧ text = "export".toList ++ blanks ++ '\x7b' :: rest := by
  simp only [afterBrace?, Option.bind_eq_bind, Option.bind_eq_some_iff, afterWord?_eq_some_iff,
    afterWord?_trimStart_eq_some_iff "\x7b" (by decide)]
  constructor
  · rintro ⟨_, rfl, blanks, hblanks, rfl⟩
    exact ⟨blanks, hblanks, by simp⟩
  · rintro ⟨blanks, hblanks, rfl⟩
    exact ⟨_, List.append_assoc .., blanks, hblanks, by simp⟩

theorem startsFrom_iff {tail : List Char} : startsFrom tail ↔ IsFromClause tail := by
  have hfrom : startsFrom tail ↔
      ∃ rest, afterWord? "from" (trimStart tail) = some rest ∧ atWordEnd rest := by
    rw [startsFrom]
    cases afterWord? "from" (trimStart tail) <;> simp
  simp only [hfrom, afterWord?_trimStart_eq_some_iff "from" (by decide), atWordEnd_iff]
  constructor
  · rintro ⟨rest, ⟨blanks, hblanks, rfl⟩, hend⟩
    exact ⟨blanks, rest, hblanks, hend, rfl⟩
  · rintro ⟨blanks, rest, hblanks, hend, rfl⟩
    exact ⟨rest, ⟨blanks, hblanks, rfl⟩, hend⟩

theorem isDefaultFrom_iff {text : List Char} :
    isDefaultFrom text ↔
      ∃ names tail, IsNameList text names tail ∧ IsDefaultAlone names ∧ IsFromClause tail := by
  simp only [isDefaultFrom, Option.any_eq_true, Option.bind_eq_bind, Option.bind_eq_some_iff,
    afterBrace?_eq_some_iff, afterWord?_trimStart_eq_some_iff "default" (by decide),
    afterWord?_trimStart_eq_some_iff "\x7d" (by decide), startsFrom_iff]
  constructor
  · rintro ⟨tail, ⟨_, ⟨blanks, hblanks, rfl⟩, _, ⟨before, hbefore, rfl⟩, after, hafter, rfl⟩, hfrom⟩
    have hbrace : '\x7d' ∉ before ++ "default".toList ++ after := by
      simp [not_mem_brace_of_blanks hbefore, not_mem_brace_of_blanks hafter]
    exact ⟨_, tail, ⟨blanks, hblanks, hbrace, by simp⟩, ⟨before, after, hbefore, hafter, rfl⟩, hfrom⟩
  · rintro ⟨_, tail, ⟨blanks, hblanks, -, rfl⟩, ⟨before, after, hbefore, hafter, rfl⟩, hfrom⟩
    refine ⟨tail, ⟨_, ⟨blanks, hblanks, List.append_assoc ..⟩, after ++ "\x7d".toList ++ tail,
      ⟨before, hbefore, ?_⟩, after, hafter, rfl⟩, hfrom⟩
    simp

-- Reading backwards finds the same alias, since neither of its words ends in a blank.
theorem endsInDefaultAlias_iff {names : List Char} :
    endsInDefaultAlias names ↔ EndsInDefaultAlias names := by
  have hdefault : "tluafed".toList = "default".toList.reverse := rfl
  have has : "sa".toList = "as".toList.reverse := rfl
  simp only [endsInDefaultAlias, Option.any_eq_true, Option.bind_eq_bind, Option.bind_eq_some_iff,
    afterWord?_trimStart_eq_some_iff "tluafed" (by decide),
    exists_afterBlanks?_afterWord?_iff "sa" (by decide), atWordEnd_iff, hdefault, has]
  constructor
  · rintro ⟨before, ⟨_, ⟨after, hafter, hnames⟩, between, hne, hbetween, rfl⟩, hend⟩
    refine ⟨before.reverse, between.reverse, after.reverse, ?_, by simpa using hne,
      blanks_reverse.mpr hbetween, blanks_reverse.mpr hafter, ?_⟩
    · rwa [List.getLast?_reverse]
    · rw [← List.reverse_reverse names, hnames]
      simp
  · rintro ⟨before, between, after, hend, hne, hbetween, hafter, rfl⟩
    refine ⟨before.reverse, ⟨_, ⟨after.reverse, blanks_reverse.mpr hafter, ?_⟩, between.reverse,
      by simpa using hne, blanks_reverse.mpr hbetween, rfl⟩, ?_⟩
    · simp
    · rwa [List.head?_reverse]

theorem forall_ne_brace {names : List Char} (h : '\x7d' ∉ names) :
    ∀ c ∈ names, decide (c ≠ '\x7d') = true := by
  intro c hc
  exact decide_eq_true fun heq => h (heq ▸ hc)

theorem takeWhile_brace {names : List Char} (h : '\x7d' ∉ names) (tail : List Char) :
    (names ++ '\x7d' :: tail).takeWhile (· ≠ '\x7d') = names :=
  takeWhile_append_eq (forall_ne_brace h) (by simp)

theorem isDefaultAlias_iff {text : List Char} :
    isDefaultAlias text ↔ ∃ names tail, IsNameList text names tail ∧ EndsInDefaultAlias names := by
  have hbrace : isDefaultAlias text ↔ ∃ rest, afterBrace? text = some rest ∧
      rest.any (· = '\x7d') ∧ EndsInDefaultAlias (rest.takeWhile (· ≠ '\x7d')) := by
    rw [isDefaultAlias]
    cases afterBrace? text <;> simp [endsInDefaultAlias_iff]
  simp only [hbrace, afterBrace?_eq_some_iff]
  constructor
  · rintro ⟨rest, ⟨blanks, hblanks, rfl⟩, hany, halias⟩
    have hmem : '\x7d' ∈ rest := by simpa using hany
    obtain ⟨names, tail, rfl, hnames⟩ := List.eq_append_cons_of_mem hmem
    rw [takeWhile_brace hnames] at halias
    exact ⟨names, tail, ⟨blanks, hblanks, hnames, by simp⟩, halias⟩
  · rintro ⟨names, tail, ⟨blanks, hblanks, hnames, rfl⟩, halias⟩
    refine ⟨names ++ '\x7d' :: tail, ⟨blanks, hblanks, List.append_assoc ..⟩, by simp, ?_⟩
    rwa [takeWhile_brace hnames]

-- The texts of the statements that are rejected.
def IsRejected (text : List Char) : Prop :=
  ∃ names tail, IsNameList text names tail ∧
    (IsDefaultAlone names ∧ IsFromClause tail ∨ EndsInDefaultAlias names)

theorem isNameList_unique {text names tail names' tail' : List Char}
    (h : IsNameList text names tail) (h' : IsNameList text names' tail') :
    names = names' ∧ tail = tail' := by
  obtain ⟨blanks, hblanks, hnames, rfl⟩ := h
  obtain ⟨blanks', hblanks', hnames', htext⟩ := h'
  simp only [List.append_assoc, List.cons_append] at htext
  have hbrace : isBlank '\x7b' = false := rfl
  obtain ⟨-, hrest⟩ := append_inj_of_kind isBlank hblanks (by simp [hbrace]) hblanks'
    (by simp [hbrace]) (List.append_cancel_left htext)
  obtain ⟨rfl, htail⟩ := append_inj_of_kind (· ≠ '\x7d') (forall_ne_brace hnames) (by simp)
    (forall_ne_brace hnames') (by simp) (List.cons.inj hrest).2
  exact ⟨rfl, (List.cons.inj htail).2⟩

theorem isRejected_iff_of_isNameList {text names tail : List Char} (h : IsNameList text names tail) :
    IsRejected text ↔ IsDefaultAlone names ∧ IsFromClause tail ∨ EndsInDefaultAlias names := by
  constructor
  · rintro ⟨names', tail', h', hrejected⟩
    obtain ⟨rfl, rfl⟩ := isNameList_unique h h'
    exact hrejected
  · intro hrejected
    exact ⟨names, tail, h, hrejected⟩

theorem rejects_iff {text : List Char} :
    (isDefaultFrom text || isDefaultAlias text) ↔ IsRejected text := by
  rw [Bool.or_eq_true, isDefaultFrom_iff, isDefaultAlias_iff]
  simp only [IsRejected, and_or_left, exists_or]

section NameList

variable {text names tail : List Char} (h : IsNameList text names tail)
include h

-- The brace after the first keyword sets a list of names apart from all other statements.
theorem exists_brace_of_isNameList {first start : List Char}
    (hfirst : afterWord? "export" text = some first) (hstart : afterBlanks? first = some start) :
    ∃ rest, start = '\x7b' :: rest := by
  obtain ⟨blanks, hblanks, -, rfl⟩ := h
  rw [afterWord?_eq_some_iff, List.append_assoc, List.append_assoc] at hfirst
  obtain rfl := List.append_cancel_left hfirst
  obtain ⟨others, -, hothers, htext, hhead⟩ := afterBlanks?_eq_some_iff.mp hstart
  refine ⟨names ++ '\x7d' :: tail, ?_⟩
  rw [← trimStart_append hothers hhead, ← htext]
  exact trimStart_append hblanks rfl

theorem afterDefault?_of_isNameList : afterDefault? text = none := by
  rw [Option.eq_none_iff_forall_ne_some]
  intro rest hrest
  simp only [afterDefault?, Option.bind_eq_bind, Option.bind_eq_some_iff] at hrest
  obtain ⟨first, hfirst, start, hstart, _, hdefault, -⟩ := hrest
  obtain ⟨rest, rfl⟩ := exists_brace_of_isNameList h hfirst hstart
  simp [afterWord?, after?] at hdefault

theorem declared?_of_isNameList : declared? text = none := by
  rw [Option.eq_none_iff_forall_ne_some]
  intro name hname
  simp only [declared?, Option.bind_eq_bind, Option.bind_eq_some_iff] at hname
  obtain ⟨first, hfirst, start, hstart, _, hkeyword, -⟩ := hname
  obtain ⟨rest, rfl⟩ := exists_brace_of_isNameList h hfirst hstart
  simp [afterBinding?, afterFunction?, afterWord?, after?] at hkeyword

end NameList

-- Only a closing brace can start a clause that is found.
theorem hasFromClause_append {before : List Char} (h : '\x7d' ∉ before) (rest : List Char) :
    hasFromClause (before ++ rest) = hasFromClause rest := by
  induction before with
  | nil => rfl
  | cons c before ih =>
      simp only [List.mem_cons, not_or] at h
      simp [hasFromClause, Ne.symm h.1, ih h.2]

-- A list of names is rejected or passed on as it stands.
theorem classify_of_isNameList {src : String} {names tail : List Char}
    (h : IsNameList (trim src.toList) names tail) :
    classify src =
      if isDefaultFrom (trim src.toList) || isDefaultAlias (trim src.toList) then
        .rejected (if hasFromClause (trim src.toList) then .fromModule else .localAlias)
      else .other src := by
  rw [classify, afterDefault?_of_isNameList h, declared?_of_isNameList h]

-- Which statements are rejected: those with the name default alone between braces, taken from another
-- module, and those whose names end in an alias to it.
theorem classify_rejected_iff (src : String) :
    (∃ form, classify src = .rejected form) ↔ IsRejected (trim src.toList) := by
  constructor
  · rintro ⟨form, h⟩
    rw [classify] at h
    split at h
    · cases h
    · split at h
      · next hrejects => exact rejects_iff.mp hrejects
      · split at h <;> cases h
  · intro h
    have hrejects := rejects_iff.mpr h
    obtain ⟨names, tail, hlist, -⟩ := h
    rw [classify_of_isNameList hlist, if_pos hrejects]
    exact ⟨_, rfl⟩

end DocModule.Export
