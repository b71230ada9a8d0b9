import DocModule.Options
import DocModule.Proofs.Json.Skimming
import Mathlib.Data.List.Pairwise
import Mathlib.Tactic.MkIffOfInductiveProp

namespace DocModule.Options

open Json Text

-- The two options, each with the names that it goes by.
inductive Setting where
  | singleBlock
  | skipExport

def Setting.names : Setting → List String
  | .singleBlock => ["single_block", "singleBlock"]
  | .skipExport => ["skip_export", "skipExport"]

def valueOf (options : Options) : Setting → Bool
  | .singleBlock => options.singleBlock
  | .skipExport => options.skipExport

-- A member that gives an option, under any of its names.
def IsFor (setting : Setting) (member : Member) : Prop :=
  ∃ name ∈ setting.names, member.name = some name

def GivenOnce (setting : Setting) (members : List Member) : Prop :=
  members.Pairwise fun member other => IsFor setting member → ¬ IsFor setting other

-- What members say about an option: the value that is given, or else the one by default.
@[mk_iff] structure Settles (setting : Setting) (members : List Member) (value : Bool) : Prop where
  once : GivenOnce setting members
  given : ∀ member ∈ members, IsFor setting member → member.value = (boolText value).toList
  absent : (∀ member ∈ members, ¬ IsFor setting member) → value = false

@[mk_iff] structure Accepts (members : List Member) (options : Options) : Prop where
  named : ∀ member ∈ members, member.name.isSome
  settles : ∀ setting, Settles setting members (options.valueOf setting)

theorem flag?_eq_some_iff {names : List String} {glances : List (String × Option Bool)} {value : Bool} :
    flag? names glances = some value ↔
      (glances.Pairwise fun glance other => glance.1 ∈ names → other.1 ∉ names) ∧
      (∀ glance ∈ glances, glance.1 ∈ names → glance.2 = some value) ∧
      ((∀ glance ∈ glances, glance.1 ∉ names) → value = false) := by
  have honce : (glances.Pairwise fun glance other => glance.1 ∈ names → other.1 ∉ names) ↔
      (glances.filter (·.1 ∈ names)).Pairwise fun _ _ => False := by
    simp [List.pairwise_filter]
  have hgiven : (∀ glance ∈ glances, glance.1 ∈ names → glance.2 = some value) ↔
      ∀ glance ∈ glances.filter (·.1 ∈ names), glance.2 = some value := by
    simp
  have habsent : (∀ glance ∈ glances, glance.1 ∉ names) ↔ glances.filter (·.1 ∈ names) = [] := by
    simp [List.filter_eq_nil_iff]
  rw [honce, hgiven, habsent, flag?]
  generalize glances.filter (·.1 ∈ names) = asked
  rcases asked with _ | ⟨glance, _ | ⟨other, others⟩⟩
  · cases value <;> simp
  · simp
  · refine ⟨nofun, fun h => False.elim ?_⟩
    exact List.rel_of_pairwise_cons h.1 List.mem_cons_self

theorem ofMembers?_eq_some_iff {glances : List (String × Option Bool)} {options : Options} :
    ofMembers? glances = some options ↔
      ∀ setting, flag? setting.names glances = some (options.valueOf setting) := by
  have hboth : (∀ setting, flag? (Setting.names setting) glances = some (options.valueOf setting)) ↔
      flag? singleBlockNames glances = some options.singleBlock ∧
        flag? skipExportNames glances = some options.skipExport :=
    ⟨fun h => ⟨h .singleBlock, h .skipExport⟩, fun h setting => by cases setting; exacts [h.1, h.2]⟩
  rw [hboth, ofMembers?]
  cases options with
  | mk single skip =>
      cases flag? singleBlockNames glances <;> cases flag? skipExportNames glances <;> simp

-- A member whose name is a text.
def named (pair : String × List Char) : Member :=
  ⟨some pair.1, pair.2⟩

def glance (pair : String × List Char) : String × Option Bool :=
  (pair.1, boolOf? pair.2)

theorem exists_pairs {members : List Member} (h : ∀ member ∈ members, member.name.isSome) :
    ∃ pairs : List (String × List Char), members = pairs.map named := by
  induction members with
  | nil => exact ⟨[], rfl⟩
  | cons member members ih =>
      obtain ⟨pairs, rfl⟩ := ih fun other hmem => h other (List.mem_cons_of_mem _ hmem)
      obtain ⟨name, hname⟩ := Option.isSome_iff_exists.mp (h member List.mem_cons_self)
      exact ⟨(name, member.value) :: pairs, by simp [named, ← hname]⟩

theorem mapM_glance?_named (pairs : List (String × List Char)) :
    (pairs.map named).mapM Skim.glance? = some (pairs.map glance) := by
  induction pairs with
  | nil => rfl
  | cons pair pairs ih => simp [ih, Skim.glance?, named, glance]

theorem mapM_glance?_of_unnamed {members : List Member}
    (h : ¬ ∀ member ∈ members, member.name.isSome) : members.mapM Skim.glance? = none := by
  induction members with
  | nil => simp at h
  | cons member members ih =>
      cases hname : member.name with
      | none => simp [Skim.glance?, hname]
      | some name =>
          have hrest : ¬ ∀ other ∈ members, other.name.isSome := by simpa [hname] using h
          simp [ih hrest]

theorem isFor_named {setting : Setting} {pair : String × List Char} :
    IsFor setting (named pair) ↔ pair.1 ∈ setting.names := by
  simp [IsFor, named]

theorem settles_named_iff {setting : Setting} {pairs : List (String × List Char)} {value : Bool} :
    Settles setting (pairs.map named) value ↔
      flag? setting.names (pairs.map glance) = some value := by
  rw [settles_iff, flag?_eq_some_iff, GivenOnce, List.pairwise_map, List.pairwise_map]
  simp only [List.forall_mem_map, isFor_named, glance, boolOf?_eq_some_iff]
  rfl

theorem accepts_named_iff {pairs : List (String × List Char)} {options : Options} :
    Accepts (pairs.map named) options ↔ ofMembers? (pairs.map glance) = some options := by
  simp only [ofMembers?_eq_some_iff, ← settles_named_iff]
  refine ⟨fun h => h.settles, fun h => ⟨?_, h⟩⟩
  simp only [List.forall_mem_map, named, Option.isSome_some, implies_true]

theorem parse?_eq_bind {members : List Member} {text : String} (h : IsObject members text) :
    parse? text = (members.mapM Skim.glance?).bind ofMembers? := by
  obtain ⟨cs, hmembers, before, after, hbefore, hafter, htext⟩ := h
  have hchars : text.toList = before ++ '{' :: (cs ++ '}' :: after) := by simp [htext]
  have hend : skipSpace after = [] := by simpa [skipSpace] using skipSpace_append hafter []
  have hopen : skipSpace text.toList = '{' :: (cs ++ '}' :: after) := by
    rw [hchars]
    exact skipSpace_append_cons hbefore (by decide) _
  have hfuel : cs.length ≤ 2 * text.toList.length + 1 := by
    rw [hchars]
    simp only [List.length_append, List.length_cons]
    omega
  rw [parse?, read?, hopen]
  cases members with
  | nil =>
      cases hmembers with
      | noMembers hgap =>
          simp [skipSpace_append_cons hgap (c := '}') (by decide), hend]
          rfl
  | cons member members =>
      obtain ⟨others, hhead⟩ := Skim.exists_skipSpace_of_members hmembers ('}' :: after)
      have hread := (Skim.isRead_of_derives hmembers (by simp) _ after hfuel).2
      generalize (member :: members).mapM Skim.glance? = glances at hread
      simp only [hhead, fuelFor, hread]
      cases glances with
      | none => rfl
      | some glances => cases hoptions : ofMembers? glances <;> simp [hoptions, hend]

-- An object is accepted as options just where its members say so.
theorem parse?_eq_some_iff {members : List Member} {text : String} (h : IsObject members text)
    {options : Options} : parse? text = some options ↔ Accepts members options := by
  rw [parse?_eq_bind h]
  by_cases hnamed : ∀ member ∈ members, member.name.isSome
  · obtain ⟨pairs, rfl⟩ := exists_pairs hnamed
    rw [mapM_glance?_named, Option.bind_some, accepts_named_iff]
  · rw [mapM_glance?_of_unnamed hnamed, Option.bind_none]
    exact ⟨nofun, fun haccepts => absurd haccepts.named hnamed⟩

-- Two members for one option are one and the same, if it is given once.
theorem GivenOnce.unique {setting : Setting} {members : List Member} (h : GivenOnce setting members)
    {member other : Member} (hmem : member ∈ members) (hother : other ∈ members)
    (hfor : IsFor setting member) (hfor' : IsFor setting other) : member = other := by
  have : Std.Symm fun member other => IsFor setting member → ¬ IsFor setting other :=
    ⟨fun _ _ hnot hfor hfor' => hnot hfor' hfor⟩
  by_contra hne
  exact List.Pairwise.forall h hmem hother hne hfor hfor'

theorem exists_settles_iff {setting : Setting} {members : List Member} :
    (∃ value, Settles setting members value) ↔ GivenOnce setting members ∧
      ∀ member ∈ members, IsFor setting member → ∃ value, member.value = (boolText value).toList := by
  constructor
  · rintro ⟨value, h⟩
    exact ⟨h.once, fun member hmem hfor => ⟨value, h.given member hmem hfor⟩⟩
  · rintro ⟨honce, hbool⟩
    by_cases hgiven : ∃ member ∈ members, IsFor setting member
    · obtain ⟨member, hmem, hfor⟩ := hgiven
      obtain ⟨value, hvalue⟩ := hbool member hmem hfor
      refine ⟨value, honce, fun other hother hfor' => ?_, fun habsent => ?_⟩
      · rw [← honce.unique hmem hother hfor hfor', hvalue]
      · exact absurd hfor (habsent member hmem)
    · have habsent : ∀ member ∈ members, ¬ IsFor setting member := fun member hmem hfor =>
        hgiven ⟨member, hmem, hfor⟩
      exact ⟨false, honce, fun member hmem hfor => absurd hfor (habsent member hmem), fun _ => rfl⟩

theorem exists_accepts_iff {members : List Member} :
    (∃ options, Accepts members options) ↔ (∀ member ∈ members, member.name.isSome) ∧
      ∀ setting, GivenOnce setting members ∧
        ∀ member ∈ members, IsFor setting member → ∃ value, member.value = (boolText value).toList := by
  simp only [← exists_settles_iff]
  constructor
  · rintro ⟨options, h⟩
    exact ⟨h.named, fun setting => ⟨_, h.settles setting⟩⟩
  · rintro ⟨hnamed, hsettles⟩
    obtain ⟨single, hsingle⟩ := hsettles .singleBlock
    obtain ⟨skip, hskip⟩ := hsettles .skipExport
    exact ⟨⟨single, skip⟩, hnamed, fun setting => by cases setting; exacts [hsingle, hskip]⟩

-- A member that is for no option, under a name that is a text.
def IsForeign (member : Member) : Prop :=
  member.name.isSome ∧ ∀ setting, ¬ IsFor setting member

-- Members that differ in nothing but their order, which name an option goes by and which members are
-- there for no option.
inductive Alike : List Member → List Member → Prop
  | perm {members others : List Member} : members.Perm others → Alike members others
  | renamed {setting : Setting} {member other : Member} {members : List Member} :
      IsFor setting member → IsFor setting other → member.value = other.value →
      Alike (member :: members) (other :: members)
  | foreign {member : Member} {members : List Member} :
      IsForeign member → Alike (member :: members) members
  | symm {members others : List Member} : Alike members others → Alike others members
  | trans {members others last : List Member} :
      Alike members others → Alike others last → Alike members last

-- No name belongs to both options.
theorem IsFor.setting_eq {setting other : Setting} {member : Member} (h : IsFor setting member)
    (hother : IsFor other member) : setting = other := by
  obtain ⟨name, hmem, hname⟩ := h
  obtain ⟨name', hmem', hname'⟩ := hother
  obtain rfl := Option.some.inj (hname.symm.trans hname')
  revert name
  cases setting <;> cases other <;> simp [Setting.names]

theorem settles_perm {setting : Setting} {members others : List Member} (h : members.Perm others)
    {value : Bool} : Settles setting members value ↔ Settles setting others value := by
  have honce : GivenOnce setting members ↔ GivenOnce setting others :=
    h.pairwise_iff fun hnot hfor hfor' => hnot hfor' hfor
  simp only [settles_iff, honce, h.mem_iff]

theorem settles_cons_congr {setting : Setting} {member other : Member} (members : List Member)
    (hfor : IsFor setting member ↔ IsFor setting other) (hvalue : member.value = other.value)
    {value : Bool} :
    Settles setting (member :: members) value ↔ Settles setting (other :: members) value := by
  simp only [settles_iff, GivenOnce, List.pairwise_cons, List.forall_mem_cons, hfor, hvalue]

theorem settles_cons_of_not_isFor {setting : Setting} {member : Member} (members : List Member)
    (h : ¬ IsFor setting member) {value : Bool} :
    Settles setting (member :: members) value ↔ Settles setting members value := by
  simp [settles_iff, GivenOnce, h]

theorem Alike.accepts_iff {members others : List Member} (h : Alike members others) (options : Options) :
    Accepts members options ↔ Accepts others options := by
  induction h with
  | perm h => simp only [Options.accepts_iff, settles_perm h, h.mem_iff]
  | @renamed setting member other members hfor hfor' hvalue =>
      have hsame : ∀ another, IsFor another member ↔ IsFor another other := fun another =>
        ⟨fun h => h.setting_eq hfor ▸ hfor', fun h => h.setting_eq hfor' ▸ hfor⟩
      have hnamed : member.name.isSome ∧ other.name.isSome := by
        obtain ⟨name, -, hname⟩ := hfor
        obtain ⟨name', -, hname'⟩ := hfor'
        simp [hname, hname']
      simp [Options.accepts_iff, settles_cons_congr members (hsame _) hvalue, hnamed]
  | @foreign member members h =>
      simp [Options.accepts_iff, settles_cons_of_not_isFor members (h.2 _), h.1]
  | symm _ ih => exact ih.symm
  | trans _ _ ih ih' => exact ih.trans ih'

-- Whether the text of an object is accepted as options, and as which ones, is a matter of its members.
-- Names are texts, and an option is given once at most, under either name and as a boolean. Nothing
-- else about the members matters.
theorem parse?_object_exact {members : List Member} {text : String} (h : IsObject members text) :
    ((∃ options, parse? text = some options) ↔
      (∀ member ∈ members, member.name.isSome) ∧
      ∀ setting, GivenOnce setting members ∧
        ∀ member ∈ members, IsFor setting member → ∃ value, member.value = (boolText value).toList) ∧
    (∀ options, parse? text = some options → ∀ setting,
      (∀ member ∈ members, IsFor setting member →
        member.value = (boolText (options.valueOf setting)).toList) ∧
      ((∀ member ∈ members, ¬ IsFor setting member) → options.valueOf setting = false)) ∧
    ∀ others other, Alike members others → IsObject others other → parse? other = parse? text := by
  refine ⟨?_, fun options hparse setting => ?_, fun others other halike hother => ?_⟩
  · simp only [parse?_eq_some_iff h, exists_accepts_iff]
  · have hsettles := ((parse?_eq_some_iff h).mp hparse).settles setting
    exact ⟨hsettles.given, hsettles.absent⟩
  · apply Option.ext
    intro options
    rw [parse?_eq_some_iff hother, parse?_eq_some_iff h]
    exact (halike.accepts_iff options).symm

-- The one option stands between members that are for none, and its name holds an escape. The other
-- text has nothing but the option, under its other name.
theorem parse?_object_exact_respelled :
    let members : List Member :=
      [⟨some "x", ['1', 'e', '9', '9', '9']⟩, ⟨some "skip_export", ['t', 'r', 'u', 'e']⟩,
        ⟨some "x", ['[', '"', '\\', 'u', 'd', '8', '0', '0', '"', ']']⟩]
    let text := "\x7b\"x\":1e999,\"\\u0073kip_export\":true ,\"x\":[\"\\ud800\"]\x7d"
    let other := "\x7b\"skipExport\":true\x7d"
    IsObject members text ∧ parse? text = some { skipExport := true } ∧
      (∀ setting, GivenOnce setting members) ∧ parse? other = parse? text := by
  intro members text other
  have h0 : Quoted.IsHexDigit 0 '0' := by decide
  have h7 : Quoted.IsHexDigit 7 '7' := by decide
  have h3 : Quoted.IsHexDigit 3 '3' := by decide
  have hd : Quoted.IsHexDigit 13 'd' := by decide
  have h8 : Quoted.IsHexDigit 8 '8' := by decide
  have hx : Quoted.IsString _ ['x'] := Quoted.isString_of_plain (by decide)
  have hkip : Quoted.IsString _ ['k', 'i', 'p', '_', 'e', 'x', 'p', 'o', 'r', 't'] :=
    Quoted.isString_of_plain (by decide)
  have hskip : Quoted.IsString _ ['s', 'k', 'i', 'p', 'E', 'x', 'p', 'o', 'r', 't'] :=
    Quoted.isString_of_plain (by decide)
  have hlabel : IsLabel (some "x") ('"' :: (['x'] ++ ['"'])) := isLabel_of_isString hx (by decide)
  have hescaped := isLabel_of_isString (.cons (.codeUnit h0 h0 h7 h3) hkip) rfl
  have hplain := isLabel_of_isString hskip rfl
  have hnumber : Derives .value ['1', 'e', '9', '9', '9'] :=
    .number ⟨[], by decide, ['1'], [], ['e', '9', '9', '9'], ⟨by decide, by decide⟩, .inl rfl,
      .inr ⟨'e', by decide, [], by decide, ['9', '9', '9'], by decide, rfl⟩, rfl⟩
  have harray : Derives .value ['[', '"', '\\', 'u', 'd', '8', '0', '0', '"', ']'] :=
    .array (.lastItem (.string (.cons (.codeUnit hd h8 h0 h0) .nil)) (padded_self _))
  have hspaced : Padded ['t', 'r', 'u', 'e'] ['t', 'r', 'u', 'e', ' '] :=
    ⟨[], [' '], by decide, by decide, rfl⟩
  have hobject : IsObject members text :=
    ⟨_, .member hlabel hnumber (padded_self _) (.member hescaped (.bool true) hspaced
      (.lastMember hlabel harray (padded_self _))), [], [], by decide, by decide, by decide +kernel⟩
  have hother : IsObject [⟨some "skipExport", ['t', 'r', 'u', 'e']⟩] other :=
    ⟨_, .lastMember hplain (.bool true) (padded_self _), [], [], by decide, by decide, by decide +kernel⟩
  have hforeign : ∀ value, IsForeign ⟨some "x", value⟩ := by
    refine fun value => ⟨rfl, ?_⟩
    rintro setting ⟨name, hmem, hname⟩
    obtain rfl := Option.some.inj hname
    cases setting <;> exact absurd hmem (by decide)
  have hfor : ∀ name ∈ Setting.skipExport.names, ∀ value, IsFor .skipExport ⟨some name, value⟩ :=
    fun name hmem _ => ⟨name, hmem, rfl⟩
  have halike : Alike members [⟨some "skipExport", ['t', 'r', 'u', 'e']⟩] :=
    .trans (.perm (.cons _ (.swap _ _ []))) (.trans (.foreign (hforeign _))
      (.trans (.foreign (hforeign _)) (.renamed (hfor _ (by decide) _) (hfor _ (by decide) _) rfl)))
  have hparse : parse? text = some { skipExport := true } := by decide +kernel
  obtain ⟨haccepted, -, hsame⟩ := parse?_object_exact hobject
  exact ⟨hobject, hparse, fun setting => ((haccepted.mp ⟨_, hparse⟩).2 setting).1,
    hsame _ other halike hother⟩

-- A name that is no text is refused, although it is the name of neither option.
theorem parse?_object_exact_lone_surrogate :
    let members : List Member := [⟨none, ['1']⟩]
    let text := "\x7b\"\\ud800\":1\x7d"
    IsObject members text ∧
    (∀ setting, GivenOnce setting members ∧
      ∀ member ∈ members, IsFor setting member → ∃ value, member.value = (boolText value).toList) ∧
    parse? text = none := by
  intro members text
  have hd : Quoted.IsHexDigit 13 'd' := by decide
  have h8 : Quoted.IsHexDigit 8 '8' := by decide
  have h0 : Quoted.IsHexDigit 0 '0' := by decide
  have hlabel : IsLabel none ['"', '\\', 'u', 'd', '8', '0', '0', '"'] :=
    isLabel_of_isString (.cons (.codeUnit hd h8 h0 h0) .nil) (by decide)
  have hvalue : Derives .value ['1'] :=
    .number ⟨[], by decide, ['1'], [], [], ⟨by decide, by decide⟩, .inl rfl, .inl rfl, rfl⟩
  have hobject : IsObject members text :=
    ⟨_, .lastMember hlabel hvalue (padded_self _), [], [], by decide, by decide, by decide +kernel⟩
  refine ⟨hobject, fun setting => ⟨List.pairwise_singleton _ _, ?_⟩, by decide +kernel⟩
  rintro member hmem ⟨name, -, hname⟩
  rw [List.mem_singleton.mp hmem] at hname
  cases hname

end DocModule.Options
