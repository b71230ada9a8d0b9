import DocModule.Frontmatter
import DocModule.Props.Lemmas
import Mathlib.Data.List.Induction
import Mathlib.Data.List.Nodup

namespace DocModule

namespace Json

variable {members others : List (String × Json)}

-- A member at the end counts before all others of its name.
theorem lookup_append_singleton (name : String) (members : List (String × Json))
    (member : String × Json) :
    lookup name (members ++ [member]) =
      if member.1 = name then some member.2 else lookup name members := by
  by_cases h : member.1 = name <;> simp [lookup, h]

theorem mem_of_lookup {name : String} {value : Json} (h : lookup name members = some value) :
    (name, value) ∈ members := by
  obtain ⟨member, hfind, rfl⟩ := Option.map_eq_some_iff.mp h
  have hname : member.1 = name := by simpa using List.find?_some hfind
  have hmem := List.mem_reverse.mp (List.mem_of_find?_eq_some hfind)
  exact hname ▸ hmem

theorem lookup_eq_some_iff (hnodup : (members.map Prod.fst).Nodup) {name : String} {value : Json} :
    lookup name members = some value ↔ (name, value) ∈ members := by
  refine ⟨mem_of_lookup, fun hmem => ?_⟩
  have hsome : (lookup name members).isSome := by
    rw [lookup, Option.isSome_map, List.find?_isSome]
    exact ⟨(name, value), List.mem_reverse.mpr hmem, by simp⟩
  obtain ⟨other, hother⟩ := Option.isSome_iff_exists.mp hsome
  -- both members have the name, so they are one and the same
  have hsame := List.inj_on_of_nodup_map hnodup (mem_of_lookup hother) hmem rfl
  rw [hother, (Prod.mk.inj hsame).2]

-- The order of members does not matter where no name occurs twice.
theorem lookup_perm (h : others.Perm members) (hnodup : (members.map Prod.fst).Nodup)
    (name : String) : lookup name others = lookup name members := by
  have hnodup' : (others.map Prod.fst).Nodup := (h.map Prod.fst).nodup_iff.mpr hnodup
  apply Option.ext
  intro value
  rw [lookup_eq_some_iff hnodup', lookup_eq_some_iff hnodup, h.mem_iff]

end Json

namespace Props

-- A pair at the end decides what there is under its name.
theorem get?_ofPairs_append_singleton (pairs : List (String × Option String))
    (pair : String × Option String) (name : String) :
    (ofPairs (pairs ++ [pair])).get? name =
      if pair.1 = name then pair.2 else (ofPairs pairs).get? name := by
  obtain ⟨other, _ | text⟩ := pair <;> simp [ofPairs]

end Props

namespace Frontmatter

-- The properties hold the text of the member that counts, if it has one.
theorem get?_propsOfMembers (members : List (String × Json)) (name : String) :
    (propsOfMembers members).get? name = (Json.lookup name members).bind Json.scalarText? := by
  induction members using List.reverseRecOn with
  | nil => rfl
  | append_singleton members member ih =>
      rw [propsOfMembers, List.map_append, List.map_singleton,
        Props.get?_ofPairs_append_singleton, Json.lookup_append_singleton]
      by_cases hname : member.1 = name
      · simp [hname]
      · simpa [hname, propsOfMembers] using ih

end Frontmatter

end DocModule
