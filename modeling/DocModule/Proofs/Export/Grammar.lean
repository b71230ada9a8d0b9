import DocModule.Proofs.Export.Specifiers

namespace DocModule.Export

open Text

-- One blank or more.
def Gap (text : List Char) : Prop :=
  text ≠ [] ∧ Blanks text

-- The texts of default exports.
def IsDefault (text : List Char) : Prop :=
  ∃ gap rest, Gap gap ∧ EndsWord rest.head? ∧
    text = "export".toList ++ gap ++ "default".toList ++ rest

-- What stands between the keyword of a function and its name: blanks, or an asterisk with or without
-- blanks around it.
def IsFunctionGap (text : List Char) : Prop :=
  Gap text ∨ ∃ before after, Blanks before ∧ Blanks after ∧ text = before ++ '*' :: after

def bindingKeywords : List String :=
  ["var", "const", "let", "class"]

-- What stands in front of the name that a declaration introduces.
inductive IsHead : List Char → Prop
  | binding {keyword : String} {gap : List Char} :
      keyword ∈ bindingKeywords → Gap gap → IsHead (keyword.toList ++ gap)
  | function {gap : List Char} : IsFunctionGap gap → IsHead ("function".toList ++ gap)
  | asyncFunction {wait gap : List Char} :
      Gap wait → IsFunctionGap gap → IsHead ("async".toList ++ wait ++ "function".toList ++ gap)

-- A name that goes on as far as it can.
def IsLongestName (name rest : List Char) : Prop :=
  (∃ first others, name = first :: others ∧ isNameStart first ∧ ∀ c ∈ others, isNamePart c) ∧
    ∀ c ∈ rest.head?, isNamePart c = false

-- The texts of declarations, with the name that each of them introduces.
def Declares (text name : List Char) : Prop :=
  ∃ gap head rest, Gap gap ∧ IsHead head ∧ IsLongestName name rest ∧
    text = "export".toList ++ gap ++ head ++ name ++ rest

theorem afterBlanks?_eq_some_iff_gap {text rest : List Char} :
    afterBlanks? text = some rest ↔
      ∃ gap, Gap gap ∧ text = gap ++ rest ∧ rest.head?.all (!isBlank ·) := by
  simp only [afterBlanks?_eq_some_iff, Gap, Blanks, and_assoc]

theorem afterKeyword?_eq_some_iff {keyword : String} {text rest : List Char} :
    (afterWord? keyword text).bind afterBlanks? = some rest ↔
      ∃ gap, Gap gap ∧ text = keyword.toList ++ gap ++ rest ∧ rest.head?.all (!isBlank ·) := by
  simp only [Option.bind_eq_some_iff, afterWord?_eq_some_iff, afterBlanks?_eq_some_iff_gap]
  constructor
  · rintro ⟨_, rfl, gap, hgap, rfl, hrest⟩
    exact ⟨gap, hgap, (List.append_assoc ..).symm, hrest⟩
  · rintro ⟨gap, hgap, rfl, hrest⟩
    exact ⟨_, List.append_assoc .., gap, hgap, rfl, hrest⟩

-- Blanks set a keyword apart from what follows, so a text starts with one keyword at most.
theorem rest_unique_of_keywords {keyword keyword' : String} {gap gap' rest rest' : List Char}
    (hkeyword : keyword.toList.all (!isBlank ·)) (hkeyword' : keyword'.toList.all (!isBlank ·))
    (hgap : Gap gap) (hgap' : Gap gap')
    (hrest : rest.head?.all (!isBlank ·)) (hrest' : rest'.head?.all (!isBlank ·))
    (h : keyword.toList ++ gap ++ rest = keyword'.toList ++ gap' ++ rest') : rest = rest' := by
  have hblank : ∀ {gap : List Char} (rest : List Char), Gap gap →
      ∀ c ∈ (gap ++ rest).head?, (!isBlank c) = false := by
    rintro (_ | ⟨c, gap⟩) rest ⟨hne, hblanks⟩
    · exact absurd rfl hne
    · simp [hblanks c List.mem_cons_self]
  rw [List.append_assoc, List.append_assoc] at h
  obtain ⟨-, hgaps⟩ := append_inj_of_kind (!isBlank ·) (List.all_eq_true.mp hkeyword) (hblank rest hgap)
    (List.all_eq_true.mp hkeyword') (hblank rest' hgap') h
  exact (append_inj_of_kind isBlank hgap.2 (by simpa [Option.all_eq_true] using hrest) hgap'.2
    (by simpa [Option.all_eq_true] using hrest') hgaps).2

theorem not_blank_of_mem_bindingKeywords :
    ∀ keyword ∈ bindingKeywords, keyword.toList.all (!isBlank ·) := by
  decide

theorem afterBinding?_eq_some_iff {text rest : List Char} :
    afterBinding? text = some rest ↔
      ∃ keyword ∈ bindingKeywords, ∃ gap, Gap gap ∧ text = keyword.toList ++ gap ++ rest ∧
        rest.head?.all (!isBlank ·) := by
  constructor
  · intro h
    obtain ⟨keyword, hmem, hkeyword⟩ := List.exists_of_findSome?_eq_some h
    exact ⟨keyword, hmem, afterKeyword?_eq_some_iff.mp hkeyword⟩
  · rintro ⟨keyword, hmem, gap, hgap, htext, hrest⟩
    have hfound : (afterBinding? text).isSome := by
      rw [afterBinding?, List.findSome?_isSome_iff]
      exact ⟨keyword, hmem, by simp [afterKeyword?_eq_some_iff.mpr ⟨gap, hgap, htext, hrest⟩]⟩
    obtain ⟨rest', hfound⟩ := Option.isSome_iff_exists.mp hfound
    obtain ⟨keyword', hmem', hkeyword'⟩ := List.exists_of_findSome?_eq_some hfound
    obtain ⟨gap', hgap', htext', hrest'⟩ := afterKeyword?_eq_some_iff.mp hkeyword'
    rw [hfound, rest_unique_of_keywords (not_blank_of_mem_bindingKeywords keyword hmem)
      (not_blank_of_mem_bindingKeywords keyword' hmem') hgap hgap' hrest hrest' (htext ▸ htext')]

-- What follows the keyword of a function and the gap after it.
def afterFunctionGap? (text : List Char) : Option (List Char) :=
  match afterWord? "*" (trimStart text) with
  | some text => some (trimStart text)
  | none => afterBlanks? text

def afterAsync (text : List Char) : List Char :=
  ((afterWord? "async" text).bind afterBlanks?).getD text

theorem afterFunction?_eq (text : List Char) :
    afterFunction? text = (afterWord? "function" (afterAsync text)).bind afterFunctionGap? :=
  rfl

theorem exists_functionGap {text rest : List Char} (h : afterFunctionGap? text = some rest) :
    ∃ gap, IsFunctionGap gap ∧ text = gap ++ rest ∧ rest.head?.all (!isBlank ·) := by
  rw [afterFunctionGap?] at h
  split at h
  · next after hstar =>
    obtain ⟨before, hbefore, rfl⟩ := (afterWord?_trimStart_eq_some_iff "*" (by decide)).mp hstar
    obtain ⟨blanks, hblanks, hafter⟩ := exists_blanks_trimStart after
    obtain rfl := Option.some.inj h
    refine ⟨before ++ '*' :: blanks, .inr ⟨before, blanks, hbefore, hblanks, rfl⟩, ?_,
      head?_trimStart after⟩
    simp [← hafter]
  · obtain ⟨gap, hgap, htext, hrest⟩ := afterBlanks?_eq_some_iff_gap.mp h
    exact ⟨gap, .inl hgap, htext, hrest⟩

-- A name takes neither blanks nor an asterisk away from the gap in front of it.
theorem afterFunctionGap?_append {gap rest : List Char} (hgap : IsFunctionGap gap)
    (hrest : rest.head?.all (!isBlank ·)) (hstar : rest.head? ≠ some '*') :
    afterFunctionGap? (gap ++ rest) = some rest := by
  rw [afterFunctionGap?]
  rcases hgap with hgap | ⟨before, after, hbefore, hafter, rfl⟩
  · have hnone : afterWord? "*" (trimStart (gap ++ rest)) = none := by
      rw [trimStart_append hgap.2 hrest]
      cases rest with
      | nil => rfl
      | cons c rest =>
          have hc : '*' ≠ c := fun h => hstar (h ▸ rfl)
          simp [afterWord?, after?, hc]
    rw [hnone]
    exact afterBlanks?_eq_some_iff_gap.mpr ⟨gap, hgap, rfl, hrest⟩
  · have hsome : afterWord? "*" (trimStart (before ++ '*' :: after ++ rest)) = some (after ++ rest) :=
      (afterWord?_trimStart_eq_some_iff "*" (by decide)).mpr ⟨before, hbefore, by simp⟩
    rw [hsome]
    exact congrArg some (trimStart_append hafter hrest)

theorem isHead_of_afterFunction? {text rest : List Char} (h : afterFunction? text = some rest) :
    ∃ head, IsHead head ∧ text = head ++ rest := by
  rw [afterFunction?_eq, Option.bind_eq_some_iff] at h
  obtain ⟨after, hfunction, hafter⟩ := h
  obtain ⟨gap, hgap, rfl, -⟩ := exists_functionGap hafter
  rw [afterWord?_eq_some_iff] at hfunction
  cases hasync : (afterWord? "async" text).bind afterBlanks? with
  | none =>
      rw [afterAsync, hasync, Option.getD_none] at hfunction
      exact ⟨_, .function hgap, by rw [hfunction, List.append_assoc]⟩
  | some start =>
      rw [afterAsync, hasync, Option.getD_some] at hfunction
      obtain ⟨wait, hwait, rfl, -⟩ := afterKeyword?_eq_some_iff.mp hasync
      exact ⟨_, .asyncFunction hwait hgap, by simp [hfunction]⟩

-- What follows the head of a declaration.
def afterHead? (text : List Char) : Option (List Char) :=
  (afterBinding? text).or (afterFunction? text)

theorem isHead_of_afterHead? {text rest : List Char} (h : afterHead? text = some rest) :
    ∃ head, IsHead head ∧ text = head ++ rest := by
  rcases Option.or_eq_some_iff.mp h with h | ⟨-, h⟩
  · obtain ⟨keyword, hmem, gap, hgap, htext, -⟩ := afterBinding?_eq_some_iff.mp h
    exact ⟨_, .binding hmem hgap, htext⟩
  · exact isHead_of_afterFunction? h

theorem afterHead?_append {head rest : List Char} (hhead : IsHead head)
    (hrest : rest.head?.all (!isBlank ·)) (hstar : rest.head? ≠ some '*') :
    afterHead? (head ++ rest) = some rest := by
  rw [afterHead?, Option.or_eq_some_iff]
  cases hhead with
  | @binding keyword gap hmem hgap =>
      exact .inl (afterBinding?_eq_some_iff.mpr ⟨keyword, hmem, gap, hgap, rfl, hrest⟩)
  | @function gap hgap =>
      refine .inr ⟨by simp [afterBinding?, afterWord?, after?], ?_⟩
      have hasync : afterAsync ("function".toList ++ gap ++ rest) =
          "function".toList ++ (gap ++ rest) := by
        simp [afterAsync, afterWord?, after?]
      rw [afterFunction?_eq, hasync, afterWord?_eq_some_iff.mpr rfl]
      exact afterFunctionGap?_append hgap hrest hstar
  | @asyncFunction wait gap hwait hgap =>
      refine .inr ⟨by simp [afterBinding?, afterWord?, after?], ?_⟩
      have hstart : (afterWord? "async" ("async".toList ++ wait ++ "function".toList ++ gap ++ rest)).bind
          afterBlanks? = some ("function".toList ++ (gap ++ rest)) :=
        afterKeyword?_eq_some_iff.mpr ⟨wait, hwait, by simp, rfl⟩
      rw [afterFunction?_eq, afterAsync, hstart, Option.getD_some, afterWord?_eq_some_iff.mpr rfl]
      exact afterFunctionGap?_append hgap hrest hstar

theorem nameAt?_eq_some_iff {text name : List Char} :
    nameAt? text = some name ↔ ∃ rest, IsLongestName name rest ∧ text = name ++ rest := by
  constructor
  · intro h
    cases text with
    | nil => cases h
    | cons first text =>
        by_cases hfirst : isNameStart first
        · simp only [nameAt?, hfirst, if_true, Option.some.injEq] at h
          refine ⟨text.dropWhile isNamePart,
            ⟨⟨first, text.takeWhile isNamePart, h.symm, hfirst, ?_⟩, ?_⟩, ?_⟩
          · exact List.all_eq_true.mp List.all_takeWhile
          · intro c hc
            simpa [Option.mem_def.mp hc] using List.head?_dropWhile_not isNamePart text
          · rw [← h, List.cons_append, List.takeWhile_append_dropWhile]
        · simp [nameAt?, hfirst] at h
  · rintro ⟨rest, ⟨⟨first, others, rfl, hfirst, hothers⟩, hrest⟩, rfl⟩
    simp [nameAt?, hfirst, takeWhile_append_eq hothers hrest]

theorem head?_of_isLongestName {name rest : List Char} (h : IsLongestName name rest) :
    (name ++ rest).head?.all (!isBlank ·) ∧ (name ++ rest).head? ≠ some '*' := by
  obtain ⟨⟨first, others, rfl, hfirst, -⟩, -⟩ := h
  have hname : isAsciiName [first] := by simp [isAsciiName, hfirst]
  have hpart := isAsciiNamePart_of_mem hname first List.mem_cons_self
  constructor
  · simp [(not_blank_of_isAsciiNamePart hpart).1]
  · rintro hstar
    obtain rfl := Option.some.inj hstar
    revert hfirst
    decide

theorem head?_of_isHead {head : List Char} (h : IsHead head) (rest : List Char) :
    (head ++ rest).head?.all (!isBlank ·) := by
  cases h with
  | @binding keyword gap hmem _ =>
      simp only [bindingKeywords, List.mem_cons, List.not_mem_nil, or_false] at hmem
      rcases hmem with rfl | rfl | rfl | rfl <;> rfl
  | function _ => rfl
  | asyncFunction _ _ => rfl

theorem declared?_eq_some_iff {text name : List Char} :
    declared? text = some name ↔ Declares text name := by
  have hstages : declared? text = some name ↔ ∃ first, afterWord? "export" text = some first ∧
      ∃ start, afterBlanks? first = some start ∧
        ∃ found, afterHead? start = some found ∧ nameAt? found = some name := by
    simp only [declared?, afterHead?, Option.bind_eq_bind, Option.bind_eq_some_iff]
  simp only [hstages, afterWord?_eq_some_iff, afterBlanks?_eq_some_iff_gap, nameAt?_eq_some_iff]
  constructor
  · rintro ⟨_, rfl, _, ⟨gap, hgap, rfl, -⟩, _, hfound, rest, hname, rfl⟩
    obtain ⟨head, hhead, rfl⟩ := isHead_of_afterHead? hfound
    exact ⟨gap, head, rest, hgap, hhead, hname, by simp⟩
  · rintro ⟨gap, head, rest, hgap, hhead, hname, rfl⟩
    obtain ⟨hblank, hstar⟩ := head?_of_isLongestName hname
    exact ⟨gap ++ (head ++ (name ++ rest)), by simp, _, ⟨gap, hgap, rfl, head?_of_isHead hhead _⟩, _,
      afterHead?_append hhead hblank hstar, rest, hname, rfl⟩

theorem afterDefault?_eq_some_iff {text rest : List Char} :
    afterDefault? text = some rest ↔ ∃ gap, Gap gap ∧ EndsWord rest.head? ∧
      text = "export".toList ++ gap ++ "default".toList ++ rest := by
  have hstages : afterDefault? text = some rest ↔ ∃ first, afterWord? "export" text = some first ∧
      (∃ start, afterBlanks? first = some start ∧ afterWord? "default" start = some rest) ∧
        atWordEnd rest := by
    simp only [afterDefault?, Option.bind_eq_bind, Option.bind_eq_some_iff]
    constructor
    · rintro ⟨first, hfirst, start, hstart, found, hfound, hend⟩
      split at hend
      · next hword =>
        obtain rfl := Option.some.inj hend
        exact ⟨first, hfirst, ⟨start, hstart, hfound⟩, hword⟩
      · cases hend
    · rintro ⟨first, hfirst, ⟨start, hstart, hfound⟩, hend⟩
      exact ⟨first, hfirst, start, hstart, rest, hfound, if_pos hend⟩
  simp only [hstages, exists_afterBlanks?_afterWord?_iff "default" (by decide), atWordEnd_iff]
  simp only [afterWord?_eq_some_iff]
  constructor
  · rintro ⟨_, rfl, ⟨gap, hne, hgap, rfl⟩, hend⟩
    exact ⟨gap, ⟨hne, hgap⟩, hend, by simp⟩
  · rintro ⟨gap, ⟨hne, hgap⟩, hend, rfl⟩
    exact ⟨gap ++ "default".toList ++ rest, by simp, ⟨gap, hne, hgap, rfl⟩, hend⟩

theorem isDefault_iff {text : List Char} : IsDefault text ↔ ∃ rest, afterDefault? text = some rest := by
  simp only [afterDefault?_eq_some_iff]
  exact exists_comm

theorem exists_declares_iff {text : List Char} :
    (∃ name, Declares text name) ↔ ∃ name, declared? text = some name := by
  simp only [declared?_eq_some_iff]

-- The keyword default is none of those that start a declaration.
theorem declared?_of_isDefault {text : List Char} (h : IsDefault text) : declared? text = none := by
  obtain ⟨gap, rest, hgap, -, rfl⟩ := h
  have hexport : afterWord? "export" ("export".toList ++ gap ++ "default".toList ++ rest) =
      some (gap ++ ("default".toList ++ rest)) := by
    rw [afterWord?_eq_some_iff]
    simp
  have hblanks : afterBlanks? (gap ++ ("default".toList ++ rest)) = some ("default".toList ++ rest) :=
    afterBlanks?_eq_some_iff_gap.mpr ⟨gap, hgap, rfl, rfl⟩
  have hhead : afterHead? ("default".toList ++ rest) = none := by
    simp [afterHead?, afterBinding?, afterFunction?, afterWord?, after?]
  rw [declared?, hexport]
  simp only [Option.bind_eq_bind, Option.bind_some, hblanks]
  change (afterHead? ("default".toList ++ rest)).bind nameAt? = none
  rw [hhead]
  rfl

-- No text is in two of the three grammars.
section Apart

variable {text : List Char}

theorem not_isDefault_of_isRejected (h : IsRejected text) : ¬ IsDefault text := by
  obtain ⟨names, tail, hlist, -⟩ := h
  rw [isDefault_iff, afterDefault?_of_isNameList hlist]
  rintro ⟨rest, hrest⟩
  cases hrest

theorem not_declares_of_isRejected (h : IsRejected text) : ¬ ∃ name, Declares text name := by
  obtain ⟨names, tail, hlist, -⟩ := h
  rw [exists_declares_iff, declared?_of_isNameList hlist]
  rintro ⟨name, hname⟩
  cases hname

theorem not_declares_of_isDefault (h : IsDefault text) : ¬ ∃ name, Declares text name := by
  rw [exists_declares_iff, declared?_of_isDefault h]
  rintro ⟨name, hname⟩
  cases hname

theorem declares_unique {name name' : List Char} (h : Declares text name) (h' : Declares text name') :
    name = name' := by
  rw [← declared?_eq_some_iff] at h h'
  exact Option.some.inj (h.symm.trans h')

end Apart

-- The three checks of a statement, each by itself.
def default? (src : String) : Option Export :=
  (afterDefault? (trim src.toList)).map fun rest => .default (String.ofList (expression rest))

def rejected? (src : String) : Option Export :=
  if isDefaultFrom (trim src.toList) || isDefaultAlias (trim src.toList) then
    some (.rejected (if hasFromClause (trim src.toList) then .fromModule else .localAlias))
  else none

def named? (src : String) : Option Export :=
  (declared? (trim src.toList)).map fun name => .named (String.ofList name) src

-- What a statement is by checks made one after the other.
def classifyBy (checks : List (String → Option Export)) (src : String) : Export :=
  (checks.findSome? fun check => check src).getD (.other src)

theorem classify_eq_classifyBy (src : String) :
    classify src = classifyBy [default?, rejected?, named?] src := by
  rw [classify, classifyBy]
  cases hdefault : afterDefault? (trim src.toList) with
  | some rest => simp [default?, hdefault]
  | none =>
      by_cases hrejects : isDefaultFrom (trim src.toList) || isDefaultAlias (trim src.toList)
      · simp [default?, hdefault, rejected?, hrejects]
      · cases hdeclared : declared? (trim src.toList) <;>
          simp [default?, hdefault, rejected?, hrejects, named?, hdeclared]

theorem isDefault_of_default? {src : String} {found : Export} (h : default? src = some found) :
    IsDefault (trim src.toList) := by
  obtain ⟨rest, hrest, -⟩ := Option.map_eq_some_iff.mp h
  exact isDefault_iff.mpr ⟨rest, hrest⟩

theorem isRejected_of_rejected? {src : String} {found : Export} (h : rejected? src = some found) :
    IsRejected (trim src.toList) := by
  rw [rejected?] at h
  split at h
  · next hrejects => exact rejects_iff.mp hrejects
  · cases h

theorem declares_of_named? {src : String} {found : Export} (h : named? src = some found) :
    ∃ name, Declares (trim src.toList) name := by
  obtain ⟨name, hname, -⟩ := Option.map_eq_some_iff.mp h
  exact ⟨name, declared?_eq_some_iff.mp hname⟩

-- Two checks that do not both answer, or give the same answer.
def Agree (src : String) (check other : String → Option Export) : Prop :=
  ∀ found ∈ check src, ∀ found' ∈ other src, found = found'

theorem agree_checks (src : String) : [default?, rejected?, named?].Pairwise (Agree src) := by
  simp only [List.pairwise_cons, List.mem_cons, List.not_mem_nil, or_false, forall_eq_or_imp, forall_eq,
    false_imp_iff, implies_true, List.Pairwise.nil, and_true]
  refine ⟨⟨?_, ?_⟩, ?_⟩
  · intro found h found' h'
    exact absurd (isDefault_of_default? h) (not_isDefault_of_isRejected (isRejected_of_rejected? h'))
  · intro found h found' h'
    exact absurd (declares_of_named? h') (not_declares_of_isDefault (isDefault_of_default? h))
  · intro found h found' h'
    exact absurd (declares_of_named? h') (not_declares_of_isRejected (isRejected_of_rejected? h))

theorem Agree.symm {src : String} {check other : String → Option Export} (h : Agree src check other) :
    Agree src other check := fun found hfound found' hfound' => (h found' hfound' found hfound).symm

-- Checks that agree can be made in any order. Two neighbours that change places are enough.
theorem findSome?_perm {checks others : List (String → Option Export)} {src : String}
    (hperm : checks.Perm others) (hagree : checks.Pairwise (Agree src)) :
    checks.findSome? (fun check => check src) = others.findSome? fun check => check src := by
  induction hperm with
  | nil => rfl
  | cons check _ ih =>
      rw [List.findSome?_cons, List.findSome?_cons, ih (List.pairwise_cons.mp hagree).2]
  | swap first second rest =>
      have hboth : Agree src second first := (List.pairwise_cons.mp hagree).1 first List.mem_cons_self
      simp only [List.findSome?_cons]
      cases hfirst : first src with
      | none => rfl
      | some found =>
          cases hsecond : second src with
          | none => rfl
          | some found' => rw [hboth found' hsecond found hfirst]
  | trans hfirst _ ih ih' => exact (ih hagree).trans (ih' (hfirst.pairwise hagree Agree.symm))

theorem classify_eq_of_perm {checks : List (String → Option Export)}
    (hperm : checks.Perm [default?, rejected?, named?]) (src : String) :
    classify src = classifyBy checks src := by
  rw [classify_eq_classifyBy, classifyBy, classifyBy, findSome?_perm hperm.symm (agree_checks src)]

-- The same answer about another source, which is passed on in place of the first one.
def withStatement (statement : String) : Export → Export
  | .named name _ => .named name statement
  | .other _ => .other statement
  | found => found

theorem classify_eq_of_trim_eq {src other : String} (h : trim other.toList = trim src.toList) :
    classify other = (classify src).withStatement other := by
  rw [classify, classify, h]
  cases afterDefault? (trim src.toList) with
  | some rest => rfl
  | none =>
      dsimp only
      split
      · rfl
      · cases declared? (trim src.toList) <;> rfl

-- What the text of a statement tells about it, in one of four ways.
theorem classify_inversion (src : String) :
    (IsDefault (trim src.toList) ∧ ∃ expression, classify src = .default expression) ∨
    (IsRejected (trim src.toList) ∧ ∃ form, classify src = .rejected form) ∨
    (∃ name, Declares (trim src.toList) name ∧ classify src = .named (String.ofList name) src) ∨
    (¬ IsDefault (trim src.toList) ∧ ¬ IsRejected (trim src.toList) ∧
      (¬ ∃ name, Declares (trim src.toList) name) ∧ classify src = .other src) := by
  rw [isDefault_iff, exists_declares_iff, ← rejects_iff]
  simp only [← declared?_eq_some_iff]
  rw [classify]
  cases hdefault : afterDefault? (trim src.toList) with
  | some rest => exact .inl ⟨⟨rest, rfl⟩, _, rfl⟩
  | none =>
      by_cases hrejects : isDefaultFrom (trim src.toList) || isDefaultAlias (trim src.toList)
      · exact .inr (.inl ⟨hrejects, _, if_pos hrejects⟩)
      · simp only [if_neg hrejects]
        cases hdeclared : declared? (trim src.toList) with
        | some name => exact .inr (.inr (.inl ⟨name, rfl, rfl⟩))
        | none => exact .inr (.inr (.inr ⟨by simp, hrejects, by simp, rfl⟩))

section Classify

variable (src : String)

theorem classify_default_iff :
    (∃ expression, classify src = .default expression) ↔ IsDefault (trim src.toList) := by
  rcases classify_inversion src with ⟨hdefault, h⟩ | ⟨hrejected, form, h⟩ | ⟨name, hname, h⟩ |
    ⟨hdefault, -, -, h⟩
  · exact iff_of_true h hdefault
  · simp [h, not_isDefault_of_isRejected hrejected]
  · have hnot : ¬ IsDefault (trim src.toList) := fun hdefault =>
      not_declares_of_isDefault hdefault ⟨name, hname⟩
    simp [h, hnot]
  · simp [h, hdefault]

theorem classify_named_iff (name statement : String) :
    classify src = .named name statement ↔
      Declares (trim src.toList) name.toList ∧ statement = src := by
  rcases classify_inversion src with ⟨hdefault, expression, h⟩ | ⟨hrejected, form, h⟩ |
    ⟨name', hname', h⟩ | ⟨-, -, hname, h⟩
  · have hnot := not_declares_of_isDefault hdefault
    simp [h, not_exists.mp hnot]
  · have hnot := not_declares_of_isRejected hrejected
    simp [h, not_exists.mp hnot]
  · rw [h]
    constructor
    · intro heq
      obtain ⟨rfl, rfl⟩ := Export.named.inj heq
      rw [String.toList_ofList]
      exact ⟨hname', rfl⟩
    · rintro ⟨hname, rfl⟩
      rw [declares_unique hname' hname, String.ofList_toList]
  · simp [h, not_exists.mp hname]

theorem classify_other_iff :
    classify src = .other src ↔ ¬ IsDefault (trim src.toList) ∧ ¬ IsRejected (trim src.toList) ∧
      ¬ ∃ name, Declares (trim src.toList) name := by
  rcases classify_inversion src with ⟨hdefault, expression, h⟩ | ⟨hrejected, form, h⟩ |
    ⟨name, hname, h⟩ | ⟨hdefault, hrejected, hname, h⟩
  · simp [h, hdefault]
  · simp [h, hrejected]
  · have hsome : ∃ name, Declares (trim src.toList) name := ⟨name, hname⟩
    simp [h, hsome]
  · exact iff_of_true h ⟨hdefault, hrejected, hname⟩

end Classify

-- Which statements are default exports, which are declarations and of what name, and which are passed
-- on as they are: three grammars that have no text in common, so that the order of the checks does
-- not matter. Blanks around a statement change nothing but the statement that is passed on.
theorem classify_grammar (src : String) :
    ((∃ expression, classify src = .default expression) ↔ IsDefault (trim src.toList)) ∧
    (∀ name statement, classify src = .named name statement ↔
      Declares (trim src.toList) name.toList ∧ statement = src) ∧
    (∀ name name', Declares (trim src.toList) name → Declares (trim src.toList) name' → name = name') ∧
    (¬ (IsDefault (trim src.toList) ∧ IsRejected (trim src.toList)) ∧
      ¬ (IsDefault (trim src.toList) ∧ ∃ name, Declares (trim src.toList) name) ∧
      ¬ (IsRejected (trim src.toList) ∧ ∃ name, Declares (trim src.toList) name)) ∧
    (∀ checks, checks.Perm [default?, rejected?, named?] → classify src = classifyBy checks src) ∧
    (classify src = .other src ↔ ¬ IsDefault (trim src.toList) ∧ ¬ IsRejected (trim src.toList) ∧
      ¬ ∃ name, Declares (trim src.toList) name) ∧
    (∀ other, trim other.toList = trim src.toList →
      classify other = (classify src).withStatement other) := by
  refine ⟨classify_default_iff src, classify_named_iff src, fun _ _ => declares_unique, ⟨?_, ?_, ?_⟩,
    fun _ hperm => classify_eq_of_perm hperm src, classify_other_iff src, fun _ => classify_eq_of_trim_eq⟩
  · rintro ⟨hdefault, hrejected⟩
    exact not_isDefault_of_isRejected hrejected hdefault
  · rintro ⟨hdefault, hname⟩
    exact not_declares_of_isDefault hdefault hname
  · rintro ⟨hrejected, hname⟩
    exact not_declares_of_isRejected hrejected hname

-- A generator whose asterisk has no blanks around it, with the checks made in reverse, and the same
-- statement between blanks.
theorem classify_grammar_generator :
    let src := "export async  function*load() \x7b\x7d"
    let spaced := "\n export async  function*load() \x7b\x7d "
    (Declares (trim src.toList) "load".toList ∧
      ∀ name, Declares (trim src.toList) name → name = "load".toList) ∧
    ([named?, rejected?, default?].Perm [default?, rejected?, named?] ∧
      classify src = classifyBy [named?, rejected?, default?] src) ∧
    trim spaced.toList = trim src.toList ∧ classify spaced = .named "load" spaced := by
  intro src spaced
  obtain ⟨-, hnamed, hunique, -, horder, -, htrim⟩ := classify_grammar src
  have hload : classify src = .named "load" src := by decide +kernel
  have hspaced : trim spaced.toList = trim src.toList := by decide +kernel
  have hdeclares := ((hnamed "load" src).mp hload).1
  have hreverse := List.reverse_perm [default?, rejected?, named?]
  refine ⟨⟨hdeclares, fun name hname => hunique _ _ hname hdeclares⟩, ⟨hreverse, horder _ hreverse⟩,
    hspaced, ?_⟩
  rw [htrim spaced hspaced, hload]
  rfl

end DocModule.Export
