import DocModule.Text.Blank
import DocModule.Yaml.Document
import Mathlib.Data.List.TakeWhile

namespace DocModule

namespace Text

theorem isBlank_of_trim {cs : List Char} (h : trim cs = []) : ∀ c ∈ cs, isBlank c := by
  have hend : trimStart (trimStart cs).reverse = [] := by simpa [trim, trimEnd] using h
  have hall : ∀ c ∈ trimStart cs, isBlank c := by
    intro c hc
    exact List.dropWhile_eq_nil_iff.mp hend c (List.mem_reverse.mpr hc)
  have hhead := head?_trimStart cs
  have hnil : trimStart cs = [] := by
    cases hstart : trimStart cs with
    | nil => rfl
    | cons c rest =>
        rw [hstart] at hall hhead
        have hc : isBlank c = true := hall c List.mem_cons_self
        simp [hc] at hhead
  exact List.dropWhile_eq_nil_iff.mp hnil

theorem toNat_of_isBlank {c : Char} (h : isBlank c) : c.toNat ≤ 32 ∨ 133 ≤ c.toNat := by
  simp only [isBlank, blankRanges, Ranges.covers, List.any_cons, List.any_nil, Bool.or_eq_true,
    Bool.and_eq_true, decide_eq_true_eq, Bool.or_false] at h
  omega

theorem ne_of_isBlank {c other : Char} (hc : isBlank c) (hother : isBlank other = false) :
    c ≠ other := by
  rintro rfl
  rw [hother] at hc
  cases hc

end Text

namespace Yaml

open Text

section Input

theorem isBlank_of_mem_unifyBreaks {cs : List Char} (h : ∀ c ∈ cs, isBlank c) :
    ∀ c ∈ unifyBreaks cs, isBlank c := by
  have hfeed : isBlank '\n' = true := by decide
  fun_induction unifyBreaks cs <;> simp_all

theorem mem_of_mem_place {line column offset : Nat} {cs : List Char} {g : Glyph}
    (h : g ∈ place line column offset cs) : g.char ∈ cs := by
  induction cs generalizing line column offset with
  | nil => cases h
  | cons c cs ih =>
      rw [place] at h
      rcases List.mem_cons.mp h with rfl | h
      · exact List.mem_cons_self
      · split at h <;> exact List.mem_cons_of_mem c (ih h)

theorem isBlank_of_mem_glyphs? {text : String} {input : Input} (htext : ∀ c ∈ text.toList, isBlank c)
    (h : glyphs? text = some input) : ∀ g ∈ input, isBlank g.char := by
  unfold glyphs? at h
  split at h
  · obtain rfl := Option.some.inj h
    intro g hg
    exact isBlank_of_mem_unifyBreaks htext g.char (mem_of_mem_place hg)
  · cases h

end Input

namespace Scalar

-- A blank character that is no gap belongs to a scalar: it is no indicator, and no line is indented
-- too little.
theorem plainFrom?_cons_of_blank {g : Glyph} (hg : isBlank g.char) (hbreak : g.isBreak = false)
    (hspace : g.isBlank = false) (rest : Input) (gap : Gap) (text : List Char) :
    plainFrom? false 0 (g :: rest) gap text =
      plainFrom? false 0 rest .none (g.char :: gap.after text) := by
  have hcomment : g.char ≠ '#' := ne_of_isBlank hg (by decide)
  have hcolon : g.char ≠ ':' := ne_of_isBlank hg (by decide)
  have hdash : g.char ≠ '-' := ne_of_isBlank hg (by decide)
  have hdot : g.char ≠ '.' := ne_of_isBlank hg (by decide)
  have hmark : Input.atDocumentMark (g :: rest) = false := by
    rcases rest with _ | ⟨y, _ | ⟨z, rest⟩⟩ <;> simp [Input.atDocumentMark, Input.atMark, hdash, hdot]
  simp [plainFrom?, hbreak, hspace, hcomment, hmark, isColonClash, endsPlain, hcolon]

theorem plainFrom?_of_blank {input : Input} (h : ∀ g ∈ input, isBlank g.char) (gap : Gap)
    (text : List Char) :
    ∃ more broken, plainFrom? false 0 input gap text = some ⟨text.reverse ++ more, broken, []⟩ := by
  induction input generalizing gap text with
  | nil => exact ⟨[], gap.broken, by simp [plainFrom?]⟩
  | cons g rest ih =>
      have hg := h g List.mem_cons_self
      have hrest : ∀ next ∈ rest, isBlank next.char := fun next hmem =>
        h next (List.mem_cons_of_mem g hmem)
      by_cases hbreak : g.isBreak
      · obtain ⟨more, broken, hplain⟩ := ih hrest (gap.addBreak g.char) text
        exact ⟨more, broken, by simp [plainFrom?, hbreak, hplain]⟩
      · by_cases hspace : g.isBlank
        · obtain ⟨more, broken, hplain⟩ := ih hrest (gap.addBlank g.char) text
          exact ⟨more, broken, by simp [plainFrom?, hbreak, hspace, hplain]⟩
        · obtain ⟨more, broken, hplain⟩ := ih hrest .none (g.char :: gap.after text)
          have htext : (g.char :: gap.after text).reverse ++ more =
              text.reverse ++ (gap.text ++ g.char :: more) := by simp [Gap.after]
          refine ⟨gap.text ++ g.char :: more, broken, ?_⟩
          rw [plainFrom?_cons_of_blank hg (by simpa using hbreak) (by simpa using hspace), hplain, htext]

end Scalar

namespace Scanner

variable {s s' : Scanner} {g : Glyph}

theorem dropKey?_eq_some (h : s.dropKey? = some s') : ∃ keys, s' = { s with keys } := by
  unfold dropKey? at h
  split at h
  · split at h
    · cases h
    · exact ⟨_, (Option.some.inj h).symm⟩
  · exact ⟨s.keys, (Option.some.inj h).symm⟩

theorem noteKey?_eq_some (h : s.noteKey? g = some s') : ∃ keys, s' = { s with keys } := by
  unfold noteKey? at h
  split at h
  · obtain ⟨dropped, hdropped, hs⟩ := Option.bind_eq_some_iff.mp h
    obtain ⟨keys, rfl⟩ := dropKey?_eq_some hdropped
    exact ⟨_, (Option.some.inj hs).symm⟩
  · exact ⟨s.keys, (Option.some.inj h).symm⟩

theorem keyed?_eq_some {token : Token} {rest : Input} (h : s.keyed? g token rest = some s') :
    s'.input = rest ∧ s'.tokens = token :: s.tokens ∧ s'.indents = s.indents := by
  obtain ⟨noted, hnoted, hs⟩ := Option.bind_eq_some_iff.mp h
  obtain ⟨keys, rfl⟩ := noteKey?_eq_some hnoted
  obtain rfl := Option.some.inj hs
  exact ⟨rfl, rfl, rfl⟩

theorem mem_of_mem_gapFrom {flow keyAllowed inComment : Bool} {input : Input}
    (h : g ∈ (gapFrom flow input keyAllowed inComment).2) : g ∈ input := by
  induction input generalizing keyAllowed inComment with
  | nil => cases h
  | cons first input ih =>
      rw [gapFrom] at h
      split at h
      · exact List.mem_cons_of_mem first (ih h)
      · split at h
        · exact List.mem_cons_of_mem first (ih h)
        · split at h
          · exact List.mem_cons_of_mem first (ih h)
          · split at h
            · exact List.mem_cons_of_mem first (ih h)
            · exact h

-- A blank character starts a scalar without quotes, or nothing.
theorem token?_of_blank {rest : Input} (hg : isBlank g.char) (h : s.token? g rest = some s') :
    startsPlain s.inFlow g.char rest ∧ s.plain? g = some s' := by
  have hne : ∀ other, isBlank other = false → g.char ≠ other := fun other => ne_of_isBlank hg
  have hmark : ∀ c, isBlank c = false → Input.atMark c (g :: rest) = false := by
    intro c hc
    rcases rest with _ | ⟨y, _ | ⟨z, rest⟩⟩ <;> simp [Input.atMark, hne c hc]
  simp only [token?, hmark '-' (by decide), hmark '.' (by decide), hne '%' (by decide),
    hne '[' (by decide), hne '\x7b' (by decide), hne ']' (by decide), hne '\x7d' (by decide),
    hne ',' (by decide), hne '-' (by decide), hne '?' (by decide), hne ':' (by decide),
    hne '*' (by decide), hne '&' (by decide), hne '!' (by decide), hne '|' (by decide),
    hne '>' (by decide), hne '\'' (by decide), hne '"' (by decide), beq_iff_eq, Bool.and_eq_true,
    Bool.false_eq_true, false_and, and_false, if_false] at h
  split at h
  · next hstarts => exact ⟨hstarts, h⟩
  · cases h

theorem isBlank_eq_false_of_startsPlain {flow : Bool} {rest : Input} (hg : isBlank g.char)
    (h : startsPlain flow g.char rest) : g.isBreak = false ∧ g.isBlank = false := by
  have hne : ∀ other, isBlank other = false → g.char ≠ other := fun other => ne_of_isBlank hg
  simp only [startsPlain, hne '-' (by decide), hne '?' (by decide), hne ':' (by decide), beq_iff_eq,
    Bool.or_eq_true, or_self, if_false, Bool.not_eq_true', Bool.or_eq_false_iff] at h
  obtain ⟨⟨⟨hspace, htab⟩, hbreak⟩, -⟩ := h
  exact ⟨hbreak, by simp [Glyph.isBlank, hspace, htab]⟩

-- Outside all collections a scalar of blanks takes up the rest of the text.
theorem plain?_of_blank {rest : Input} (hinput : s.input = g :: rest)
    (hblank : ∀ next ∈ g :: rest, isBlank next.char) (hflow : s.inFlow = false)
    (hindents : s.indents = [])
    (hbreak : g.isBreak = false) (hspace : g.isBlank = false) (h : s.plain? g = some s') :
    s'.input = [] ∧ s'.indents = [] ∧
      ∃ more, s'.tokens = .scalar true (String.ofList (g.char :: more)) :: s.tokens := by
  have hg := hblank g List.mem_cons_self
  have hrest : ∀ next ∈ rest, isBlank next.char := fun next hmem =>
    hblank next (List.mem_cons_of_mem g hmem)
  obtain ⟨more, broken, hplain⟩ := Scalar.plainFrom?_of_blank hrest .none [g.char]
  have hread : Scalar.plain? false 0 (g :: rest) = some ⟨g.char :: more, broken, []⟩ :=
    (Scalar.plainFrom?_cons_of_blank hg hbreak hspace rest .none []).trans hplain
  unfold plain? at h
  rw [hflow, hindents, hinput] at h
  simp only [List.head?_nil, Option.elim_none, hread, Option.bind_eq_bind, Option.bind_some] at h
  obtain ⟨keyed, hkeyed, hs⟩ := Option.bind_eq_some_iff.mp h
  obtain rfl := Option.some.inj hs
  obtain ⟨hend, htokens, hsame⟩ := keyed?_eq_some hkeyed
  exact ⟨hend, hsame.trans hindents, more, htokens⟩

theorem run?_of_end {fuel : Nat} {tokens : List Token} (hinput : s.skipGap.input = [])
    (hindents : s.indents = []) (h : run? fuel s = some tokens) : tokens = s.tokens.reverse := by
  cases fuel with
  | zero => cases h
  | succ fuel =>
      have hclosed : (s.skipGap.closeBlocks none).tokens = s.tokens := by
        unfold closeBlocks
        split
        · rfl
        · simp [skipGap, hindents]
      simp only [run?, hinput] at h
      obtain ⟨ended, hended, htokens⟩ := Option.bind_eq_some_iff.mp h
      obtain ⟨keys, rfl⟩ := dropKey?_eq_some hended
      rw [← hclosed]
      exact (Option.some.inj htokens).symm

-- A text of blanks has one token at most, a scalar without quotes.
theorem run?_of_blank {input : Input} (hblank : ∀ g ∈ input, isBlank g.char) {fuel : Nat}
    {tokens : List Token} (h : run? fuel (start input) = some tokens) :
    tokens = [] ∨ ∃ c more, isBlank c ∧ tokens = [.scalar true (String.ofList (c :: more))] := by
  cases hgap : (start input).skipGap.input with
  | nil => exact .inl (run?_of_end hgap rfl h)
  | cons g rest =>
      cases fuel with
      | zero => cases h
      | succ fuel =>
          have hrest : ∀ next ∈ g :: rest, isBlank next.char := by
            intro next hnext
            rw [← hgap] at hnext
            exact hblank next (mem_of_mem_gapFrom hnext)
          have hg := hrest g List.mem_cons_self
          simp only [run?, hgap] at h
          obtain ⟨kept, hkept, hrun⟩ := Option.bind_eq_some_iff.mp h
          obtain rfl : (start input).skipGap = kept := Option.some.inj hkept
          obtain ⟨read, hread, hrun⟩ := Option.bind_eq_some_iff.mp hrun
          obtain ⟨hstarts, hplain⟩ := token?_of_blank hg hread
          obtain ⟨hbreak, hspace⟩ := isBlank_eq_false_of_startsPlain hg hstarts
          have hinput : ((start input).skipGap.closeBlocks (some g.column)).input = g :: rest := hgap
          obtain ⟨hend, hindents, more, htokens⟩ :=
            plain?_of_blank hinput hrest rfl rfl hbreak hspace hplain
          have hgapEnd : read.skipGap.input = [] := by simp [skipGap, hend, gapFrom]
          rw [run?_of_end hgapEnd hindents hrun, htokens]
          exact .inr ⟨g.char, more, hg, rfl⟩

end Scanner

namespace Value

section Words

variable {c : Char} {more : List Char}

theorem hexValue?_of_blank (hc : isBlank c) : Quoted.hexValue? c = none := by
  have hrange := toNat_of_isBlank hc
  have hout : ∀ low high : Char, 32 < low.toNat → high.toNat < 133 → ¬ (low ≤ c ∧ c ≤ high) := by
    rintro low high hlow hhigh ⟨hleast, hmost⟩
    have hleast : low.toNat ≤ c.toNat := hleast
    have hmost : c.toNat ≤ high.toNat := hmost
    omega
  simp [Quoted.hexValue?, hout '0' '9' (by decide) (by decide), hout 'a' 'f' (by decide) (by decide),
    hout 'A' 'F' (by decide) (by decide)]

theorem isDigit_of_blank (hc : isBlank c) : c.isDigit = false := by
  have hrange := toNat_of_isBlank hc
  by_contra hdigit
  simp only [Char.isDigit, Bool.not_eq_false, Bool.and_eq_true, decide_eq_true_eq] at hdigit
  have hdigit : 48 ≤ c.toNat ∧ c.toNat ≤ 57 := hdigit
  omega

theorem isZeroLed_of_blank (hc : isBlank c) : isZeroLed (c :: more) = false := by
  simp [isZeroLed, isDigit_of_blank hc]

theorem magnitude?_of_blank (hc : isBlank c) : magnitude? (c :: more) = none := by
  have hzero : c ≠ '0' := ne_of_isBlank hc (by decide)
  unfold magnitude?
  split
  · next heq => exact absurd (List.cons.inj heq).1 hzero
  · next heq => exact absurd (List.cons.inj heq).1 hzero
  · next heq => exact absurd (List.cons.inj heq).1 hzero
  · simp [isZeroLed_of_blank hc, natural?, hexValue?_of_blank hc]

theorem decimal?_of_blank (hc : isBlank c) (negative : Bool) :
    decimal? negative (c :: more) = none := by
  have hdot : c ≠ '.' := ne_of_isBlank hc (by decide)
  have hlow : c ≠ 'e' := ne_of_isBlank hc (by decide)
  have hhigh : c ≠ 'E' := ne_of_isBlank hc (by decide)
  simp [decimal?, isDigit_of_blank hc, hdot, hlow, hhigh]

end Words

-- A text that starts with a blank character, and so with no sign, digit or letter.
section Plain

variable {text : String} {c : Char} {more : List Char} (htext : text.toList = c :: more) (hc : isBlank c)
include htext hc

theorem not_mem_of_blank {words : List String}
    (hwords : ∀ word ∈ words, word.toList.head?.any isBlank = false) : text ∉ words := by
  intro hmem
  have hhead := hwords text hmem
  rw [htext, List.head?_cons, Option.any_some, hc] at hhead
  cases hhead

theorem integer?_of_blank : integer? text = none := by
  have hplus : c ≠ '+' := ne_of_isBlank hc (by decide)
  have hminus : c ≠ '-' := ne_of_isBlank hc (by decide)
  simp [integer?, htext, hplus, hminus, magnitude?_of_blank hc]

theorem float?_of_blank : float? text = none := by
  have hplus : c ≠ '+' := ne_of_isBlank hc (by decide)
  have hminus : c ≠ '-' := ne_of_isBlank hc (by decide)
  unfold float?
  rw [if_neg (not_mem_of_blank htext hc (by decide))]
  simp [htext, hplus, hminus, decimal?_of_blank hc]

-- As a scalar without quotes it looks like nothing but a string.
theorem ofPlain?_of_blank : ofPlain? text = some (.string text) := by
  have hplus : c ≠ '+' := ne_of_isBlank hc (by decide)
  have hminus : c ≠ '-' := ne_of_isBlank hc (by decide)
  have hempty : text ≠ "" := by
    rintro rfl
    cases htext
  have hnull : null? text = none := if_neg (not_mem_of_blank htext hc (by decide))
  have hbool : bool? text = none := by
    unfold bool?
    rw [if_neg (not_mem_of_blank htext hc (by decide)), if_neg (not_mem_of_blank htext hc (by decide))]
  simp [ofPlain?, hempty, hnull, hbool, integer?_of_blank htext hc, float?_of_blank htext hc, htext,
    isZeroLed_of_blank hc, hplus, hminus]

end Plain

-- A text whose only token is a scalar without quotes.
theorem eq_of_plainToken {text src : String} {value : Value}
    (hscan : Token.scan? src = some [.scalar true text]) (h : parse? src = some value) :
    ofPlain? text = some value := by
  have hevents : Event.ofTokens? [.scalar true text] = some [.scalar Event.bare true text] := rfl
  have hlinked : Event.link? [.scalar Event.bare true text] [] =
      some [.scalar ⟨none, none⟩ true text] := rfl
  have hread : ∀ document, (follow document (readNode document depthLimit)
      [.scalar ⟨none, none⟩ true text]).run 0 = (ofPlain? text).map fun found => ((found, []), 0) := by
    intro document
    simp only [follow, readNode, ofScalar?, wrap]
    cases ofPlain? text <;> rfl
  simp only [parse?, hscan, hevents, hlinked, hread, Option.bind_eq_bind, Option.bind_some,
    List.isEmpty_cons, Bool.false_eq_true, if_false] at h
  cases hplain : ofPlain? text with
  | none =>
      rw [hplain] at h
      cases h
  | some found =>
      rw [hplain] at h
      exact h

-- A text of blanks is null, or else a string of characters that count as blanks elsewhere only.
theorem parse?_of_blank {src : String} (h : trim src.toList = []) {value : Value}
    (hvalue : parse? src = some value) : value = .null ∨ ∃ text, value = .string text := by
  obtain ⟨tokens, htokens, hdocument⟩ := Option.bind_eq_some_iff.mp hvalue
  obtain ⟨input, hinput, hrun⟩ := Option.bind_eq_some_iff.mp htokens
  have hblank := isBlank_of_mem_glyphs? (isBlank_of_trim h) hinput
  rcases Scanner.run?_of_blank hblank hrun with rfl | ⟨c, more, hc, rfl⟩
  · exact .inl (Option.some.inj hdocument).symm
  · have hplain := eq_of_plainToken htokens hvalue
    rw [ofPlain?_of_blank String.toList_ofList hc] at hplain
    exact .inr ⟨_, (Option.some.inj hplain).symm⟩

end Value

-- A way to read texts, which says what value a text holds, if any. What a text of blanks holds is
-- null or a string.
structure Dialect where
  read : String → Option Value
  blank : ∀ {src : String}, trim src.toList = [] → ∀ {value : Value}, read src = some value →
    value = .null ∨ ∃ text, value = .string text

def Dialect.standard : Dialect :=
  ⟨Value.parse?, Value.parse?_of_blank⟩

end Yaml

end DocModule
