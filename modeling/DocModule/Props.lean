namespace DocModule

-- The properties of a document: a finite map from names to texts. The entries are sorted by name,
-- so two property maps are equal exactly when they hold the same texts under the same names.
structure Props where
  entries : List (String × String)
  sorted : entries.Pairwise (·.1 < ·.1)
  deriving DecidableEq

namespace Props

def empty : Props :=
  ⟨[], .nil⟩

instance : EmptyCollection Props :=
  ⟨empty⟩

instance : Inhabited Props :=
  ⟨empty⟩

def insertEntry (name text : String) : List (String × String) → List (String × String)
  | [] => [(name, text)]
  | entry :: rest =>
      if name < entry.1 then (name, text) :: entry :: rest
      else if name = entry.1 then (name, text) :: rest
      else entry :: insertEntry name text rest

theorem mem_insertEntry {name text : String} {entries : List (String × String)}
    {entry : String × String} (h : entry ∈ insertEntry name text entries) :
    entry.1 = name ∨ entry ∈ entries := by
  induction entries with
  | nil => simp [insertEntry] at h; simp [h]
  | cons first rest ih =>
      rw [insertEntry] at h
      split at h
      · rcases List.mem_cons.mp h with rfl | h
        · exact .inl rfl
        · exact .inr h
      · split at h
        · rcases List.mem_cons.mp h with rfl | h
          · exact .inl rfl
          · exact .inr (List.mem_cons_of_mem _ h)
        · rcases List.mem_cons.mp h with rfl | h
          · exact .inr List.mem_cons_self
          · exact (ih h).imp id (List.mem_cons_of_mem _)

theorem lt_of_not_lt_of_ne {a b : String} (hlt : ¬ a < b) (hne : a ≠ b) : b < a :=
  Std.lt_of_le_of_ne (String.not_lt.mp hlt) (Ne.symm hne)

theorem sorted_insertEntry (name text : String) {entries : List (String × String)}
    (h : entries.Pairwise (·.1 < ·.1)) : (insertEntry name text entries).Pairwise (·.1 < ·.1) := by
  induction entries with
  | nil => simp [insertEntry]
  | cons first rest ih =>
      obtain ⟨hfirst, hrest⟩ := List.pairwise_cons.mp h
      rw [insertEntry]
      split
      · next hlt =>
        refine List.pairwise_cons.mpr ⟨fun entry hentry => ?_, h⟩
        rcases List.mem_cons.mp hentry with rfl | hentry
        · exact hlt
        · exact String.lt_trans hlt (hfirst entry hentry)
      · next hlt =>
        split
        · next heq =>
          exact List.pairwise_cons.mpr ⟨fun entry hentry => heq ▸ hfirst entry hentry, hrest⟩
        · next hne =>
          refine List.pairwise_cons.mpr ⟨fun entry hentry => ?_, ih hrest⟩
          rcases mem_insertEntry hentry with heq | hentry
          · exact heq ▸ lt_of_not_lt_of_ne hlt hne
          · exact hfirst entry hentry

-- The map with a text under a name, in place of what was there.
def insert (props : Props) (name text : String) : Props :=
  ⟨insertEntry name text props.entries, sorted_insertEntry name text props.sorted⟩

def erase (props : Props) (name : String) : Props :=
  ⟨props.entries.filter (·.1 ≠ name), props.sorted.filter _⟩

def get? (props : Props) (name : String) : Option String :=
  (props.entries.find? (·.1 = name)).map (·.2)

-- The map that pairs build up one after the other: the last text of a name counts, and a pair
-- without a text takes the name away.
def ofPairs (pairs : List (String × Option String)) : Props :=
  pairs.foldl
    (fun props pair => match pair.2 with
      | some text => props.insert pair.1 text
      | none => props.erase pair.1)
    empty

end Props

end DocModule
