import Genesis.Lib.Python

/-!
# Dictionaries written in layers

`Dict.ofPairs` keeps the last value written under a key, so of two layers of
writes the later one shows (`get?_append_of_mem`), and inside a layer the last write
(`get?_ofPairs_filterMap_eq_some_iff`).
-/

namespace Py.Dict

variable {α β : Type} {pairs low high : List (String × α)} {key : String} {value : α}

theorem mem_of_get?_ofPairs (found : (ofPairs pairs).get? key = some value) :
    (key, value) ∈ pairs := by
  obtain ⟨before, after, rfl, -⟩ := get?_ofPairs_eq_some_iff.mp found
  exact List.mem_append_right _ List.mem_cons_self

theorem get?_ofPairs_eq_none_iff_forall :
    (ofPairs pairs).get? key = none ↔ ∀ v, (key, v) ∉ pairs := by
  rw [get?_ofPairs_eq_none_iff]
  refine ⟨fun absent v member => absent (List.mem_map_of_mem member), ?_⟩
  intro absent member
  obtain ⟨⟨k, v⟩, inPairs, rfl⟩ := List.mem_map.mp member
  exact absent v inPairs

/-- A written key has the value of some write of it. -/
theorem exists_get?_ofPairs (written : (key, value) ∈ pairs) :
    ∃ v, (ofPairs pairs).get? key = some v := by
  cases found : (ofPairs pairs).get? key with
  | none => exact absurd written (get?_ofPairs_eq_none_iff_forall.mp found value)
  | some v => exact ⟨v, rfl⟩

/-- The later layer shows where it writes the key. -/
theorem get?_ofPairs_append :
    (ofPairs (low ++ high)).get? key =
      ((ofPairs high).get? key).or ((ofPairs low).get? key) := by
  rw [get?_ofPairs, get?_ofPairs, get?_ofPairs, List.reverse_append, List.lookup_append]

theorem get?_append_of_mem (written : (key, value) ∈ high) :
    (ofPairs (low ++ high)).get? key = (ofPairs high).get? key := by
  obtain ⟨v, found⟩ := exists_get?_ofPairs written
  rw [get?_ofPairs_append, found, Option.some_or]

theorem get?_append_of_not_mem (absent : ∀ v, (key, v) ∉ high) :
    (ofPairs (low ++ high)).get? key = (ofPairs low).get? key := by
  rw [get?_ofPairs_append, get?_ofPairs_eq_none_iff_forall.mpr absent, Option.none_or]

/-- Of what is written in passing over a list, the last write of a key shows. -/
theorem get?_ofPairs_filterMap_eq_some_iff {xs : List β} {write : β → Option (String × α)} :
    (ofPairs (xs.filterMap write)).get? key = some value ↔ ∃ before x after,
      xs = before ++ x :: after ∧ write x = some (key, value) ∧
        ∀ y ∈ after, ∀ v, write y ≠ some (key, v) := by
  rw [get?_ofPairs_eq_some_iff]
  refine ⟨?_, ?_⟩
  · rintro ⟨early, late, split, absent⟩
    obtain ⟨before, rest, rfl, rfl, written⟩ := List.filterMap_eq_append_iff.mp split
    obtain ⟨skipped, x, after, rfl, -, found, rfl⟩ := List.filterMap_eq_cons_iff.mp written
    refine ⟨before ++ skipped, x, after, by simp, found, fun y member v overwritten => ?_⟩
    exact absent (List.mem_map.mpr ⟨_, List.mem_filterMap.mpr ⟨y, member, overwritten⟩, rfl⟩)
  · rintro ⟨before, x, after, rfl, found, last⟩
    refine ⟨before.filterMap write, after.filterMap write, ?_, ?_⟩
    · rw [List.filterMap_append, List.filterMap_cons, found]
    · intro member
      obtain ⟨⟨k, v⟩, inAfter, rfl⟩ := List.mem_map.mp member
      obtain ⟨y, inRest, overwritten⟩ := List.mem_filterMap.mp inAfter
      exact last y inRest v overwritten

end Py.Dict
