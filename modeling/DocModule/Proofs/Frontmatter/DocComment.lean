import DocModule.Frontmatter
import DocModule.Proofs.Text.Joined
import DocModule.Proofs.Text.Split
import DocModule.Props.Lemmas
import Mathlib.Data.List.Basic

namespace DocModule.Frontmatter

open Text

-- The text of a property, where one that is missing counts as empty.
def textOf (props : Props) (key : String) : String :=
  (props.get? key).getD ""

-- What stands in front of the text of a property on its line.
def label (key : String) : List Char :=
  " * ".toList ++ (key.toList ++ ": ".toList)

def docLines (props : Props) : List String :=
  "/**" :: (recognizedKeys.filterMap (docLine? props) ++ [attribution, " */"])

theorem docComment_eq_stacked (props : Props) : docComment props = stacked (docLines props) :=
  rfl

section Lines

variable {props : Props} {key line : String}

theorem docLine?_eq (props : Props) (key : String) :
    docLine? props key =
      if textOf props key = "" then none else some (" * " ++ key ++ ": " ++ textOf props key) := by
  unfold docLine? textOf
  cases props.get? key <;> rfl

theorem docLine?_eq_some_iff :
    docLine? props key = some line ↔
      textOf props key ≠ "" ∧ line.toList = label key ++ (textOf props key).toList := by
  have hline : (" * " ++ key ++ ": " ++ textOf props key).toList =
      label key ++ (textOf props key).toList := by
    simp only [label, String.toList_append, List.append_assoc]
  rw [docLine?_eq]
  by_cases htext : textOf props key = ""
  · simp [htext]
  · rw [if_neg htext, Option.some.injEq, ← hline, String.toList_inj, eq_comm]
    simp [htext]

theorem exists_docLine? (h : textOf props key ≠ "") : ∃ line, docLine? props key = some line := by
  rw [docLine?_eq, if_neg h]
  exact ⟨_, rfl⟩

-- The lines of a doc comment: its frame, and one for each property with a text.
theorem mem_docLines_iff :
    line ∈ docLines props ↔ line ∈ ["/**", attribution, " */"] ∨
      ∃ key ∈ recognizedKeys, docLine? props key = some line := by
  simp only [docLines, List.mem_cons, List.mem_append, List.mem_filterMap, List.not_mem_nil, or_false]
  exact (or_congr_right or_comm).trans or_assoc.symm

theorem not_mem_colon_of_mem_recognizedKeys : ∀ key ∈ recognizedKeys, ':' ∉ key.toList := by
  decide

theorem not_mem_colon_of_mem_frame : ∀ line ∈ ["/**", attribution, " */"], ':' ∉ line.toList := by
  decide

theorem label_append_inj {key' : String} {text text' : List Char} (hkey : key ∈ recognizedKeys)
    (hkey' : key' ∈ recognizedKeys) (h : label key ++ text = label key' ++ text') :
    key = key' ∧ text = text' := by
  simp only [label, List.append_assoc] at h
  have hlabel := List.append_cancel_left h
  have hword : ∀ key ∈ recognizedKeys, ∀ c ∈ key.toList, decide (c ≠ ':') := by
    intro key hkey c hc
    have hcolon := not_mem_colon_of_mem_recognizedKeys key hkey
    exact decide_eq_true (fun heq => hcolon (heq ▸ hc))
  have hend : ∀ text : List Char, ∀ c ∈ (": ".toList ++ text).head?, decide (c ≠ ':') = false := by
    intro text c hc
    obtain rfl : ':' = c := Option.some.inj hc
    rfl
  obtain ⟨hkeys, hrest⟩ := append_inj_of_kind (fun c => decide (c ≠ ':')) (hword key hkey) (hend text)
    (hword key' hkey') (hend text') hlabel
  exact ⟨String.toList_inj.mp hkeys, List.append_cancel_left hrest⟩

-- A line with the label of a property is the line of that property.
theorem eq_textOf_of_mem_docLines (hkey : key ∈ recognizedKeys) (hline : line ∈ docLines props)
    {text : List Char} (h : line.toList = label key ++ text) :
    textOf props key ≠ "" ∧ text = (textOf props key).toList := by
  rcases mem_docLines_iff.mp hline with hframe | ⟨other, hother, hdoc⟩
  · have hcolon : ':' ∈ line.toList := by simp [h, label]
    exact absurd hcolon (not_mem_colon_of_mem_frame line hframe)
  · obtain ⟨htext, hlabel⟩ := docLine?_eq_some_iff.mp hdoc
    obtain ⟨rfl, rfl⟩ := label_append_inj hother hkey (hlabel.symm.trans h)
    exact ⟨htext, rfl⟩

end Lines

-- Properties whose shown texts have no line break in them.
def OneLined (props : Props) : Prop :=
  ∀ key ∈ recognizedKeys, '\n' ∉ (textOf props key).toList

-- Properties that give the same text under each key that a doc comment shows.
def SameTexts (props others : Props) : Prop :=
  ∀ key ∈ recognizedKeys, textOf props key = textOf others key

instance (props : Props) : Decidable (OneLined props) :=
  inferInstanceAs (Decidable (∀ key ∈ recognizedKeys, _))

instance (props others : Props) : Decidable (SameTexts props others) :=
  inferInstanceAs (Decidable (∀ key ∈ recognizedKeys, _))

-- The text under a key as a comment shows it: what follows the label on the first line that has it.
def textIn (comment key : String) : String :=
  (((comment.toList.splitOn '\n').findSome? (·.dropPrefix? (label key))).map String.ofList).getD ""

section ReadingBack

variable {props : Props}

theorem not_mem_break_of_mem_frame : ∀ line ∈ ["/**", attribution, " */"], '\n' ∉ line.toList := by
  decide

theorem not_mem_break_label : ∀ key ∈ recognizedKeys, '\n' ∉ label key := by
  decide

theorem not_mem_break_of_mem_docLines (h : OneLined props) {line : String}
    (hline : line ∈ docLines props) : '\n' ∉ line.toList := by
  rcases mem_docLines_iff.mp hline with hframe | ⟨key, hkey, hdoc⟩
  · exact not_mem_break_of_mem_frame line hframe
  · obtain ⟨-, hlabel⟩ := docLine?_eq_some_iff.mp hdoc
    rw [hlabel, List.mem_append, not_or]
    exact ⟨not_mem_break_label key hkey, h key hkey⟩

theorem splitOn_docComment (h : OneLined props) :
    (docComment props).toList.splitOn '\n' = (docLines props).map String.toList := by
  have htext : (docComment props).toList = ['\n'].intercalate ((docLines props).map String.toList) := by
    rw [docComment_eq_stacked, stacked, joined_eq_intercalate, String.toList_intercalate]
    rfl
  rw [htext]
  apply List.splitOn_intercalate
  · intro line hline
    obtain ⟨shown, hshown, rfl⟩ := List.mem_map.mp hline
    exact not_mem_break_of_mem_docLines h hshown
  · simp [docLines]

-- A comment whose lines are those of the properties gives each of them back.
theorem textIn_docComment (h : OneLined props) {key : String} (hkey : key ∈ recognizedKeys) :
    textIn (docComment props) key = textOf props key := by
  unfold textIn
  rw [splitOn_docComment h]
  cases hfound : ((docLines props).map String.toList).findSome? (·.dropPrefix? (label key)) with
  | some text =>
      obtain ⟨chars, hchars, hdrop⟩ := List.exists_of_findSome?_eq_some hfound
      obtain ⟨line, hline, rfl⟩ := List.mem_map.mp hchars
      obtain ⟨start, hsplit, hstart⟩ := List.dropPrefix?_eq_some_iff.mp hdrop
      rw [beq_iff_eq.mp hstart] at hsplit
      have htext := (eq_textOf_of_mem_docLines hkey hline hsplit).2
      simp [htext]
  | none =>
      by_contra htext
      have hne : textOf props key ≠ "" := fun heq => htext (by simp [heq])
      -- the line of the property is there, and it has the label
      obtain ⟨line, hdoc⟩ := exists_docLine? hne
      have hmem : line.toList ∈ (docLines props).map String.toList :=
        List.mem_map_of_mem (mem_docLines_iff.mpr (.inr ⟨key, hkey, hdoc⟩))
      have hlabel := (docLine?_eq_some_iff.mp hdoc).2
      have hdrop := List.findSome?_eq_none_iff.mp hfound _ hmem
      rw [hlabel, List.dropPrefix?_append_of_beq _ (beq_self_eq_true _)] at hdrop
      cases hdrop

theorem docComment_congr {others : Props} (h : SameTexts props others) :
    docComment props = docComment others := by
  have hlines : recognizedKeys.filterMap (docLine? props) =
      recognizedKeys.filterMap (docLine? others) := by
    apply List.filterMap_congr
    intro key hkey
    rw [docLine?_eq, docLine?_eq, h key hkey]
  unfold docComment
  rw [hlines]

end ReadingBack

-- A doc comment is made of the texts under its keys and of nothing else, and where none of them breaks
-- a line it gives all of them back.
theorem docComment_shows_texts (props others : Props) :
    (SameTexts props others → docComment props = docComment others) ∧
    (OneLined props → OneLined others → docComment props = docComment others →
      SameTexts props others) ∧
    (OneLined props → ∀ key ∈ recognizedKeys, textIn (docComment props) key = textOf props key) := by
  refine ⟨docComment_congr, ?_, fun h key hkey => textIn_docComment h hkey⟩
  intro hprops hothers hsame key hkey
  calc
    textOf props key = textIn (docComment props) key := (textIn_docComment hprops hkey).symm
    _ = textIn (docComment others) key := by rw [hsame]
    _ = textOf others key := textIn_docComment hothers hkey

-- A text that looks like the line of another property, under two maps with different further keys.
theorem docComment_shows_texts_lookalike :
    let props := Props.ofPairs [("title", some " * author: Ada"), ("draft", some "true")]
    let others := Props.ofPairs [("author", some ""), ("title", some " * author: Ada")]
    props ≠ others ∧ SameTexts props others ∧ OneLined props ∧ OneLined others ∧
    docComment props = docComment others ∧
    (docComment props = docComment others → SameTexts props others) ∧
    "title" ∈ recognizedKeys ∧ textIn (docComment props) "title" = " * author: Ada" ∧
    "author" ∈ recognizedKeys ∧ textIn (docComment props) "author" = "" := by
  intro props others
  have hsame : SameTexts props others := by decide +kernel
  have hprops : OneLined props := by decide +kernel
  have hothers : OneLined others := by decide +kernel
  obtain ⟨hforward, hback, hread⟩ := docComment_shows_texts props others
  have htitle : "title" ∈ recognizedKeys := by decide
  have hauthor : "author" ∈ recognizedKeys := by decide
  exact ⟨by decide +kernel, hsame, hprops, hothers, hforward hsame, hback hprops hothers,
    htitle, (hread hprops _ htitle).trans (by decide +kernel),
    hauthor, (hread hprops _ hauthor).trans (by decide +kernel)⟩

-- A line break in a text can stand for the line of another property.
example : docComment (Props.ofPairs [("title", some "a\n * author: b")]) =
    docComment (Props.ofPairs [("title", some "a"), ("author", some "b")]) := by
  decide +kernel

end DocModule.Frontmatter
