import Genesis.Lib.Python

/-!
# Grouping by key

`collect` is the loop that files values under their keys in a dictionary, each
key starting from a default (`d.setdefault(key, default)`).  `collect_eq` is its
closed form: the keys in order of first occurrence, each with the fold over its
own values.  What it collects under a key therefore does not depend on the other
keys, and the order of the pairs matters only through the order of the values of
each key (`valuesOf_perm`).
-/

namespace Py

variable {β γ : Type}

/-- `for key, b in pairs: d[key] = step(d.get(key, default), b)`. -/
def collect (default : γ) (step : γ → β → γ) (pairs : List (String × β)) : Dict γ :=
  pairs.foldl (fun d pair => d.set pair.1 (step ((d.get? pair.1).getD default) pair.2)) []

/-- The values filed under a key, in order. -/
def valuesOf (key : String) (pairs : List (String × β)) : List β :=
  (pairs.filter fun pair => pair.1 = key).map Prod.snd

theorem mem_valuesOf {key : String} {pairs : List (String × β)} {b : β} :
    b ∈ valuesOf key pairs ↔ (key, b) ∈ pairs := by
  simp only [valuesOf, List.mem_map, List.mem_filter, decide_eq_true_eq, Prod.exists]
  refine ⟨?_, ?_⟩
  · intro h
    obtain ⟨_, _, ⟨member, rfl⟩, rfl⟩ := h
    exact member
  · intro member
    exact ⟨key, b, ⟨member, rfl⟩, rfl⟩

theorem valuesOf_append {key : String} {pairs more : List (String × β)} :
    valuesOf key (pairs ++ more) = valuesOf key pairs ++ valuesOf key more := by
  simp [valuesOf]

theorem valuesOf_perm {key : String} {pairs pairs' : List (String × β)}
    (perm : pairs.Perm pairs') : (valuesOf key pairs).Perm (valuesOf key pairs') :=
  (perm.filter _).map _

theorem valuesOf_eq_nil {key : String} {pairs : List (String × β)}
    (absent : key ∉ pairs.map Prod.fst) : valuesOf key pairs = [] := by
  apply List.eq_nil_iff_forall_not_mem.mpr
  intro b member
  exact absent (List.mem_map_of_mem (mem_valuesOf.mp member))

/-! ## First occurrences -/

theorem fromKeys_append_singleton (keys : List String) (key : String) :
    fromKeys (keys ++ [key]) = if key ∈ keys then fromKeys keys else fromKeys keys ++ [key] := by
  unfold fromKeys
  rw [List.eraseDups_append]
  by_cases known : key ∈ keys
  · simp [known, List.removeAll]
  · simp only [List.removeAll, known, List.elem_eq_contains, List.contains_eq_mem, decide_false,
      Bool.not_false, List.filter_cons_of_pos, List.filter_nil, if_false]
    rfl

/-- Lists with the same elements have the same first occurrences, up to order. -/
theorem fromKeys_perm {keys keys' : List String} (same : ∀ key, key ∈ keys ↔ key ∈ keys') :
    (fromKeys keys).Perm (fromKeys keys') := by
  apply (List.perm_ext_iff_of_nodup (nodup_fromKeys keys) (nodup_fromKeys keys')).mpr
  intro key
  rw [mem_fromKeys, mem_fromKeys, same]

/-- More than one first occurrence: two of the elements differ. -/
theorem one_lt_length_fromKeys_iff {xs : List String} :
    1 < (fromKeys xs).length ↔ ∃ x ∈ xs, ∃ y ∈ xs, x ≠ y := by
  have nodup := nodup_fromKeys xs
  have same : ∀ x, x ∈ fromKeys xs ↔ x ∈ xs := fun _ => mem_fromKeys
  generalize fromKeys xs = firsts at nodup same
  simp only [← same]
  rcases firsts with _ | ⟨x, _ | ⟨y, rest⟩⟩
  · simp
  · simp
  · refine ⟨fun _ => ?_, fun _ => by simp⟩
    refine ⟨x, List.mem_cons_self, y, List.mem_cons_of_mem x List.mem_cons_self, ?_⟩
    intro eq
    exact (List.nodup_cons.mp nodup).1 (eq ▸ List.mem_cons_self)

/-! ## The closed form -/

theorem Dict.get?_map {keys : List String} (f : String → γ) {key : String} (member : key ∈ keys) :
    Dict.get? (keys.map fun k => (k, f k)) key = some (f key) := by
  induction keys with
  | nil => cases member
  | cons k keys ih =>
    by_cases same : key = k
    · simp [Dict.get?, same]
    · have later : key ∈ keys := (List.mem_cons.mp member).resolve_left same
      rw [← ih later, Dict.get?, Dict.get?, List.map_cons, List.lookup_cons,
        beq_eq_false_iff_ne.mpr same]

/-- Writing into a dictionary that is given key by key. -/
theorem Dict.set_map {keys : List String} (nodup : keys.Nodup) (f : String → γ) (key : String)
    (value : γ) :
    Dict.set (keys.map fun k => (k, f k)) key value =
      if key ∈ keys then keys.map fun k => (k, if k = key then value else f k)
      else keys.map (fun k => (k, f k)) ++ [(key, value)] := by
  induction keys with
  | nil => rfl
  | cons k keys ih =>
    obtain ⟨fresh, nodup⟩ := List.nodup_cons.mp nodup
    by_cases same : k = key
    · subst same
      have others : (keys.map fun j => (j, if j = k then value else f j)) =
          keys.map fun j => (j, f j) := by
        apply List.map_congr_left
        intro j member
        have ne : j ≠ k := fun eq => fresh (eq ▸ member)
        simp [ne]
      simp [Dict.set, others]
    · have reversed : key ≠ k := fun eq => same eq.symm
      rw [List.map_cons, Dict.set, if_neg same, ih nodup]
      by_cases known : key ∈ keys
      · simp [known, same]
      · simp [known, reversed]

/-- The loop files every value under its key, the keys in order of first occurrence. -/
theorem collect_eq (default : γ) (step : γ → β → γ) (pairs : List (String × β)) :
    collect default step pairs =
      (fromKeys (pairs.map Prod.fst)).map fun key =>
        (key, (valuesOf key pairs).foldl step default) := by
  induction pairs using List.reverseRecOn with
  | nil => rfl
  | append_singleton pairs pair ih =>
    obtain ⟨key, b⟩ := pair
    have before : (Dict.get? (collect default step pairs) key).getD default =
        (valuesOf key pairs).foldl step default := by
      rw [ih]
      by_cases known : key ∈ pairs.map Prod.fst
      · rw [Dict.get?_map _ (mem_fromKeys.mpr known)]
        rfl
      · rw [Dict.get?_eq_none (by simpa using known), valuesOf_eq_nil known]
        rfl
    have after : ∀ k, (valuesOf k (pairs ++ [(key, b)])).foldl step default =
        if k = key then step ((valuesOf key pairs).foldl step default) b
        else (valuesOf k pairs).foldl step default := by
      intro k
      rw [valuesOf_append, List.foldl_append]
      by_cases same : k = key
      · subst same
        simp [valuesOf]
      · have other : key ≠ k := fun eq => same eq.symm
        simp [valuesOf, same, other]
    have step_eq : collect default step (pairs ++ [(key, b)]) =
        (collect default step pairs).set key
          (step ((valuesOf key pairs).foldl step default) b) := by
      rw [← before]
      simp [collect, List.foldl_append]
    rw [step_eq, ih, Dict.set_map (nodup_fromKeys _), List.map_append, List.map_singleton,
      fromKeys_append_singleton]
    simp only [mem_fromKeys, after]
    by_cases known : key ∈ pairs.map Prod.fst
    · rw [if_pos known, if_pos known]
    · rw [if_neg known, if_neg known, List.map_append, List.map_singleton, if_pos rfl]
      congr 1
      apply List.map_congr_left
      intro k member
      have ne : k ≠ key := fun eq => known (eq ▸ mem_fromKeys.mp member)
      rw [if_neg ne]

end Py
