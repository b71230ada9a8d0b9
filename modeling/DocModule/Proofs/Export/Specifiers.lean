import DocModule.Proofs.Export.Rejection
import DocModule.Proofs.Text.Joined

namespace DocModule.Export

open Text

def isAsciiNamePart (c : Char) : Bool :=
  isAsciiWord c || c == '$'

def isAsciiName : List Char → Bool
  | [] => false
  | c :: cs => isNameStart c && cs.all isAsciiNamePart

-- A name in ASCII characters. The word default is one.
structure Name where
  text : String
  isName : isAsciiName text.toList

-- One item of a list of exported names, with the alias that it is exported as if it has one.
structure Specifier where
  name : Name
  alias? : Option Name

namespace Specifier

def text (specifier : Specifier) : String :=
  match specifier.alias? with
  | none => specifier.name.text
  | some label => specifier.name.text ++ " as " ++ label.text

def exported (specifier : Specifier) : Name :=
  specifier.alias?.getD specifier.name

end Specifier

-- A statement that exports a list of names, its own or those of another module. The name default
-- has no binding of its own, so without another module it stands in front of an alias only.
structure NameList where
  specifiers : List Specifier
  module? : Option String
  nonempty : specifiers ≠ []
  noDefault : module? = none → ∀ specifier ∈ specifiers, specifier.alias? = none →
    specifier.name.text ≠ "default"

namespace NameList

def fromClause (list : NameList) : String :=
  match list.module? with
  | none => ""
  | some path => " from '" ++ path ++ "'"

def text (list : NameList) : String :=
  "export \x7b " ++ joined ", " (list.specifiers.map Specifier.text) ++ " \x7d" ++ list.fromClause

-- Some name of the list is exported as default.
def ExportsDefault (list : NameList) : Prop :=
  ∃ specifier ∈ list.specifiers, specifier.exported.text = "default"

-- The last name of the list is exported as default, and it has an alias or is the only one.
def EndsInDefault (list : NameList) : Prop :=
  ∃ before last, list.specifiers = before ++ [last] ∧ last.exported.text = "default" ∧
    (last.alias? ≠ none ∨ before = [])

def form (list : NameList) : ReExport :=
  if list.module? = none then .localAlias else .fromModule

end NameList

theorem not_blank_of_isAsciiNamePart {c : Char} (h : isAsciiNamePart c) :
    isBlank c = false ∧ c ≠ '\x7d' := by
  have hrange : (65 ≤ c.toNat ∧ c.toNat ≤ 90) ∨ (97 ≤ c.toNat ∧ c.toNat ≤ 122) ∨
      (48 ≤ c.toNat ∧ c.toNat ≤ 57) ∨ c.toNat = 95 ∨ c.toNat = 36 := by
    delta isAsciiNamePart isAsciiWord Char.isAlphanum Char.isAlpha Char.isUpper Char.isLower
      Char.isDigit at h
    simp only [Bool.or_eq_true, Bool.and_eq_true, decide_eq_true_eq, beq_iff_eq, or_assoc] at h
    rcases h with h | h | h | rfl | rfl
    · exact .inl h
    · exact .inr (.inl h)
    · exact .inr (.inr (.inl h))
    · decide
    · decide
  constructor
  · simp only [isBlank, Ranges.covers, blankRanges, List.any_cons, List.any_nil, Bool.or_eq_false_iff,
      Bool.and_eq_false_iff, decide_eq_false_iff_not, and_true]
    omega
  · rintro rfl
    revert hrange
    decide

theorem isAsciiNamePart_of_mem {cs : List Char} (h : isAsciiName cs) :
    ∀ c ∈ cs, isAsciiNamePart c := by
  cases cs with
  | nil => simp
  | cons c cs =>
      simp only [isAsciiName, Bool.and_eq_true, List.all_eq_true] at h
      intro d hd
      rcases List.mem_cons.mp hd with rfl | hd
      · have hstart := h.1
        simp only [isNameStart, isAsciiNamePart, isAsciiWord, Char.isAlphanum, Bool.or_eq_true]
          at hstart ⊢
        exact hstart.imp_left (Or.imp_left Or.inl)
      · exact h.2 d hd

namespace Name

variable (name : Name)

theorem ne_nil : name.text.toList ≠ [] := by
  intro h
  have hname := name.isName
  rw [h] at hname
  cases hname

theorem not_blank : ∀ c ∈ name.text.toList, isBlank c = false := fun c hc =>
  (not_blank_of_isAsciiNamePart (isAsciiNamePart_of_mem name.isName c hc)).1

theorem not_mem_brace : '\x7d' ∉ name.text.toList := fun hc =>
  (not_blank_of_isAsciiNamePart (isAsciiNamePart_of_mem name.isName _ hc)).2 rfl

end Name

-- Names that end in a word between single spaces.
section LastWord

variable {before word : List Char} (hne : word ≠ []) (hword : ∀ c ∈ word, isBlank c = false)
include hne hword

-- If they end in the name default after a blank, the word is that name.
theorem eq_default_of_last {first after : List Char} (hfirst : ∀ c ∈ first.getLast?, isBlank c)
    (hafter : Blanks after)
    (h : before ++ ' ' :: word ++ [' '] = first ++ "default".toList ++ after) :
    word = "default".toList ∧ before ++ [' '] = first := by
  have hlast : ∀ c ∈ (before ++ ' ' :: word).getLast?, isBlank c = false := by
    intro c hc
    rw [← List.singleton_append, ← List.append_assoc] at hc
    exact hword c (mem_of_mem_getLast?_append hne hc)
  have hdefaultLast : ∀ c ∈ (first ++ "default".toList).getLast?, isBlank c = false := by
    have ht : isBlank 't' = false := rfl
    simp [ht]
  obtain ⟨hstart, -⟩ := append_inj_of_last_kind isBlank hlast blanks_space hdefaultLast hafter h
  have hsplit : (before ++ [' ']) ++ word = first ++ "default".toList := by simpa using hstart
  obtain ⟨hbefore, hdefault⟩ := append_inj_of_last_kind (!isBlank ·) (by simp)
    (by simpa using hword) (by simpa using hfirst) (List.all_eq_true.mp rfl) hsplit
  exact ⟨hdefault, hbefore⟩

variable (hbefore : ∀ c ∈ before.getLast?, isBlank c = false)
include hbefore

theorem isDefaultAlone_iff_of_last :
    IsDefaultAlone (before ++ ' ' :: word ++ [' ']) ↔ word = "default".toList ∧ before = [] := by
  constructor
  · rintro ⟨blanks, after, hblanks, hafter, h⟩
    obtain ⟨hdefault, rfl⟩ := eq_default_of_last hne hword
      (fun c hc => hblanks c (List.mem_of_getLast? hc)) hafter h
    refine ⟨hdefault, List.getLast?_eq_none_iff.mp (Option.eq_none_iff_forall_ne_some.mpr ?_)⟩
    intro c hc
    have hblank : isBlank c = true := hblanks c (List.mem_append_left _ (List.mem_of_getLast? hc))
    rw [hbefore c hc] at hblank
    cases hblank
  · rintro ⟨rfl, rfl⟩
    exact ⟨[' '], [' '], blanks_space, blanks_space, rfl⟩

theorem endsInDefaultAlias_iff_of_last :
    EndsInDefaultAlias (before ++ ' ' :: word ++ [' ']) ↔
      word = "default".toList ∧ ∃ first, EndsWord first.getLast? ∧ before = first ++ "as".toList := by
  constructor
  · rintro ⟨first, between, after, hend, hsome, hbetween, hafter, h⟩
    have hlast : ∀ c ∈ (first ++ "as".toList ++ between).getLast?, isBlank c := by
      intro c hc
      exact hbetween c (mem_of_mem_getLast?_append hsome hc)
    obtain ⟨hdefault, hstart⟩ := eq_default_of_last hne hword hlast hafter h
    have hasLast : ∀ c ∈ (first ++ "as".toList).getLast?, isBlank c = false := by
      have hs : isBlank 's' = false := rfl
      simp [hs]
    obtain ⟨halias, -⟩ := append_inj_of_last_kind isBlank hbefore blanks_space hasLast hbetween hstart
    exact ⟨hdefault, first, hend, halias⟩
  · rintro ⟨rfl, first, hend, rfl⟩
    exact ⟨first, [' '], [' '], hend, by simp, blanks_space, blanks_space, by simp⟩

end LastWord

theorem Specifier.not_mem_brace (specifier : Specifier) : '\x7d' ∉ specifier.text.toList := by
  have hname := specifier.name.not_mem_brace
  rw [Specifier.text]
  cases specifier.alias? with
  | none => exact hname
  | some label => simp [hname, label.not_mem_brace]

-- What stands between the braces of a list before its last specifier, less the space after it.
def textBefore : List Specifier → List Char
  | [] => []
  | first :: rest =>
      ' ' :: (joined ", " ((first :: rest).map Specifier.text)).toList ++ [',']

-- The same before the name that the last specifier exports.
def textBeforeExported (before : List Specifier) (last : Specifier) : List Char :=
  match last.alias? with
  | none => textBefore before
  | some _ => textBefore before ++ ' ' :: last.name.text.toList ++ " as".toList

theorem getLast?_textBeforeExported (before : List Specifier) (last : Specifier) :
    ∀ c ∈ (textBeforeExported before last).getLast?, isBlank c = false := by
  have hcomma : isBlank ',' = false := rfl
  have hs : isBlank 's' = false := rfl
  rw [textBeforeExported]
  cases last.alias? with
  | none => cases before <;> simp [textBefore, List.getLast?_cons, hcomma]
  | some label => simp [List.getLast?_cons, hs]

theorem textBeforeExported_eq_nil_iff {before : List Specifier} {last : Specifier} :
    textBeforeExported before last = [] ↔ last.alias? = none ∧ before = [] := by
  rw [textBeforeExported]
  cases last.alias? with
  | none => cases before <;> simp [textBefore]
  | some label => simp

theorem exists_textBeforeExported_eq_iff {before : List Specifier} {last : Specifier} :
    (∃ first, EndsWord first.getLast? ∧ textBeforeExported before last = first ++ "as".toList) ↔
      last.alias? ≠ none := by
  constructor
  · rintro ⟨first, -, h⟩ hnone
    have hlast := congrArg List.getLast? h
    cases before <;> simp [textBeforeExported, hnone, textBefore, List.getLast?_cons] at hlast
  · intro h
    obtain ⟨label, halias⟩ := Option.ne_none_iff_exists'.mp h
    refine ⟨textBefore before ++ ' ' :: last.name.text.toList ++ [' '], ?_, ?_⟩
    · have hspace : isWord ' ' = false := rfl
      simp [EndsWord, List.getLast?_cons, hspace]
    · simp [textBeforeExported, halias]

namespace NameList

def names (list : NameList) : List Char :=
  ' ' :: (joined ", " (list.specifiers.map Specifier.text)).toList ++ [' ']

theorem names_eq {list : NameList} {before : List Specifier} {last : Specifier}
    (h : list.specifiers = before ++ [last]) :
    list.names = textBeforeExported before last ++ ' ' :: last.exported.text.toList ++ [' '] := by
  have htext : list.names = textBefore before ++ ' ' :: last.text.toList ++ [' '] := by
    rw [names, h]
    cases before with
    | nil => simp [textBefore]
    | cons first rest =>
        rw [List.map_append, joined_append ", " (by simp) (by simp)]
        simp [textBefore]
  rw [htext, textBeforeExported, Specifier.exported, Specifier.text]
  cases last.alias? <;> simp

theorem not_mem_brace (list : NameList) : '\x7d' ∉ list.names := by
  have hjoined : '\x7d' ∉ (joined ", " (list.specifiers.map Specifier.text)).toList := by
    apply not_mem_toList_joined (by decide)
    intro text hmem
    obtain ⟨specifier, -, rfl⟩ := List.mem_map.mp hmem
    exact specifier.not_mem_brace
  simp [names, hjoined]

theorem toList_text (list : NameList) :
    list.text.toList =
      "export".toList ++ [' '] ++ '\x7b' :: list.names ++ '\x7d' :: list.fromClause.toList := by
  simp [text, names]

theorem trim_toList_text (list : NameList) : trim list.text.toList = list.text.toList := by
  apply trim_eq_self
  · rw [toList_text]
    rfl
  · have hbrace : isBlank '\x7d' = false := rfl
    have hquote : isBlank '\'' = false := rfl
    rw [toList_text, fromClause]
    cases list.module? <;> simp [List.getLast?_cons, hbrace, hquote]

theorem isNameList_text (list : NameList) :
    IsNameList (trim list.text.toList) list.names list.fromClause.toList := by
  refine ⟨[' '], blanks_space, list.not_mem_brace, ?_⟩
  rw [trim_toList_text, toList_text]

theorem isFromClause_of_module {list : NameList} (h : list.module? ≠ none) :
    IsFromClause list.fromClause.toList := by
  obtain ⟨path, hpath⟩ := Option.ne_none_iff_exists'.mp h
  refine ⟨[' '], " '".toList ++ path.toList ++ "'".toList, blanks_space, ?_, ?_⟩
  · have hspace : isWord ' ' = false := rfl
    simp [EndsWord, hspace]
  · simp [fromClause, hpath]

section Last

variable {list : NameList} {before : List Specifier} {last : Specifier}
  (hlist : list.specifiers = before ++ [last])
include hlist

theorem endsInDefault_iff :
    list.EndsInDefault ↔
      last.exported.text = "default" ∧ (last.alias? ≠ none ∨ before = []) := by
  constructor
  · rintro ⟨before', last', hlist', h⟩
    obtain ⟨rfl, hlast⟩ := List.append_inj' (hlist.symm.trans hlist') rfl
    obtain rfl := List.singleton_inj.mp hlast
    exact h
  · intro h
    exact ⟨before, last, hlist, h⟩

theorem isFromClause_of_bare (hdefault : last.exported.text = "default") (hbare : last.alias? = none) :
    IsFromClause list.fromClause.toList := by
  apply isFromClause_of_module
  intro hmodule
  apply list.noDefault hmodule last (by simp [hlist]) hbare
  simpa [Specifier.exported, hbare] using hdefault

end Last

theorem isRejected_text_iff (list : NameList) :
    IsRejected (trim list.text.toList) ↔ list.EndsInDefault := by
  obtain ⟨before, last, hlist⟩ : ∃ before last, list.specifiers = before ++ [last] :=
    ⟨_, _, (List.dropLast_concat_getLast list.nonempty).symm⟩
  have hne := last.exported.ne_nil
  have hword := last.exported.not_blank
  have hbefore := getLast?_textBeforeExported before last
  rw [isRejected_iff_of_isNameList list.isNameList_text, names_eq hlist,
    isDefaultAlone_iff_of_last hne hword hbefore, endsInDefaultAlias_iff_of_last hne hword hbefore,
    textBeforeExported_eq_nil_iff, exists_textBeforeExported_eq_iff, String.toList_inj,
    endsInDefault_iff hlist]
  constructor
  · rintro (⟨⟨hdefault, -, hnil⟩, -⟩ | ⟨hdefault, halias⟩)
    · exact ⟨hdefault, .inr hnil⟩
    · exact ⟨hdefault, .inl halias⟩
  · rintro ⟨hdefault, hlast⟩
    by_cases hbare : last.alias? = none
    · have hfrom := isFromClause_of_bare hlist hdefault hbare
      exact .inl ⟨⟨hdefault, hbare, hlast.resolve_left fun h => h hbare⟩, hfrom⟩
    · exact .inr ⟨hdefault, hbare⟩

theorem hasFromClause_text (list : NameList) :
    hasFromClause (trim list.text.toList) = list.module?.isSome := by
  have hbrace : '\x7d' ∉ "export".toList ++ [' '] ++ '\x7b' :: list.names := by
    simp [list.not_mem_brace]
  rw [trim_toList_text, toList_text, hasFromClause_append hbrace, fromClause]
  cases list.module? with
  | none => rfl
  | some path =>
      have hfrom : afterWord? "from" (trimStart (" from '" ++ path ++ "'").toList) =
          some (' ' :: "'".toList ++ path.toList ++ "'".toList) := by
        rw [afterWord?_trimStart_eq_some_iff "from" (by decide)]
        exact ⟨[' '], blanks_space, by simp⟩
      rw [hasFromClause, hfrom]
      rfl

theorem form_eq (list : NameList) :
    (if hasFromClause (trim list.text.toList) then ReExport.fromModule else .localAlias) =
      list.form := by
  rw [hasFromClause_text, form]
  cases list.module? <;> rfl

theorem exportsDefault_of_endsInDefault {list : NameList} (h : list.EndsInDefault) :
    list.ExportsDefault := by
  obtain ⟨before, last, hlist, hdefault, -⟩ := h
  exact ⟨last, by simp [hlist], hdefault⟩

-- What becomes of a list of exported names. It is rejected if its last name is exported as default
-- and has an alias or is the only one, and passed on as it stands otherwise, whatever else it
-- exports as default. So the answer is right exactly on the lists that export no name as default or
-- end in one of these.
theorem classify_nameList (list : NameList) :
    (list.EndsInDefault → classify list.text = .rejected list.form) ∧
    (¬ list.EndsInDefault → classify list.text = .other list.text) ∧
    ((((∃ form, classify list.text = .rejected form) ↔ list.ExportsDefault) ∧
        (¬ list.ExportsDefault → classify list.text = .other list.text)) ↔
      (list.ExportsDefault → list.EndsInDefault)) := by
  have hclassify := classify_of_isNameList list.isNameList_text
  rw [form_eq] at hclassify
  have hrejected : list.EndsInDefault → classify list.text = .rejected list.form := by
    intro hends
    rw [hclassify, if_pos (rejects_iff.mpr (list.isRejected_text_iff.mpr hends))]
  have hother : ¬ list.EndsInDefault → classify list.text = .other list.text := by
    intro hends
    rw [hclassify, if_neg]
    intro hrejects
    exact hends (list.isRejected_text_iff.mp (rejects_iff.mp hrejects))
  have hiff : (∃ form, classify list.text = .rejected form) ↔ list.EndsInDefault := by
    constructor
    · rintro ⟨form, hform⟩
      by_cases hends : list.EndsInDefault
      · exact hends
      · rw [hother hends] at hform
        cases hform
    · intro hends
      exact ⟨_, hrejected hends⟩
  refine ⟨hrejected, hother, ?_⟩
  rw [hiff]
  constructor
  · rintro ⟨hexports, -⟩
    exact hexports.mpr
  · intro hends
    exact ⟨⟨exportsDefault_of_endsInDefault, hends⟩,
      fun hexports => hother (mt exportsDefault_of_endsInDefault hexports)⟩

theorem classify_nameList_alias_last :
    (∃ list : NameList, list.text = "export \x7b a, Layout as default \x7d" ∧ list.EndsInDefault ∧
      classify list.text = .rejected .localAlias) ∧
    (∃ list : NameList, list.text = "export \x7b default as Card \x7d from './Card'" ∧
      ¬ list.EndsInDefault ∧ classify list.text = .other list.text) := by
  let layout : Name := ⟨"Layout", by decide⟩
  let card : Name := ⟨"Card", by decide⟩
  let a : Name := ⟨"a", by decide⟩
  let word : Name := ⟨"default", by decide⟩
  constructor
  · let list : NameList := ⟨[⟨a, none⟩, ⟨layout, some word⟩], none, by simp, by simp [a]⟩
    have hends : list.EndsInDefault := ⟨[⟨a, none⟩], ⟨layout, some word⟩, rfl, rfl, .inl (by simp)⟩
    exact ⟨list, rfl, hends, (classify_nameList list).1 hends⟩
  · let list : NameList := ⟨[⟨word, some card⟩], some "./Card", by simp, by simp⟩
    have hends : ¬ list.EndsInDefault := by
      rintro ⟨before, last, hlist, hdefault, -⟩
      have hlast := congrArg List.getLast? hlist
      simp only [list, List.getLast?_singleton, List.getLast?_append, Option.some_or,
        Option.some.injEq] at hlast
      subst hlast
      revert hdefault
      decide
    exact ⟨list, rfl, hends, (classify_nameList list).2.1 hends⟩

-- Two lists that export a name as default and yet are passed on: one with a name after the alias, and
-- one with a name after default itself.
theorem classify_nameList_default_first :
    (∃ list : NameList, list.text = "export \x7b Layout as default, a \x7d" ∧ list.ExportsDefault ∧
      classify list.text = .other list.text) ∧
    (∃ list : NameList, list.text = "export \x7b default, a \x7d from './m'" ∧ list.ExportsDefault ∧
      classify list.text = .other list.text) := by
  let layout : Name := ⟨"Layout", by decide⟩
  let a : Name := ⟨"a", by decide⟩
  let word : Name := ⟨"default", by decide⟩
  refine ⟨⟨⟨[⟨layout, some word⟩, ⟨a, none⟩], none, by simp, ?_⟩, rfl, ?_, ?_⟩,
    ⟨⟨[⟨word, none⟩, ⟨a, none⟩], some "./m", by simp, by simp⟩, rfl, ?_, ?_⟩⟩
  · simp [layout, word, a]
  · exact ⟨⟨layout, some word⟩, by simp, rfl⟩
  · decide +kernel
  · exact ⟨⟨word, none⟩, by simp, rfl⟩
  · decide +kernel

end NameList

end DocModule.Export
