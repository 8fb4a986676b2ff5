import Mathlib.Order.Fin.Basic

/-!
# Finite chains

Facts about a sequence `f : Fin (n + 1) → α` from facts about its `n` links
`f i.castSucc`, `f i.succ`.  (Monotone sequences are `Fin.antitone_iff_succ_le`
and its kin.)  Initial segments of one list are a chain as well, and
`exists_longest` finds the one that all others begin.
-/

namespace Chain

variable {n : ℕ} {α : Type*}

/-- A label that no link changes is that of the start. -/
theorem eq_start {f : Fin (n + 1) → α} (link : ∀ i : Fin n, f i.succ = f i.castSucc)
    (i : Fin (n + 1)) : f i = f 0 := by
  induction i using Fin.induction with
  | zero => rfl
  | succ i ih => exact (link i).trans ih

/-- A counter that every link advances by one counts the links. -/
theorem counter {f : Fin (n + 1) → ℕ} (link : ∀ i : Fin n, f i.succ = f i.castSucc + 1)
    (i : Fin (n + 1)) : f i = f 0 + i := by
  induction i using Fin.induction with
  | zero => rfl
  | succ i ih =>
    rw [link i, ih, Fin.val_succ, Fin.val_castSucc]
    exact Nat.add_assoc _ _ _

/-- A chain repeats no label exactly when every link introduces a new one. -/
theorem injective_iff_fresh {f : Fin (n + 1) → α} :
    Function.Injective f ↔ ∀ (i : Fin n), ∀ j ≤ i.castSucc, f j ≠ f i.succ := by
  refine ⟨?_, ?_⟩
  · intro injective i j le same
    have eq : j = i.succ := injective same
    rw [eq] at le
    exact absurd le (not_le.mpr i.castSucc_lt_succ)
  · intro fresh
    have ordered : ∀ a b : Fin (n + 1), a < b → f a ≠ f b := by
      intro a b lt
      obtain ⟨i, rfl⟩ := Fin.exists_succ_eq.mpr (Fin.ne_zero_of_lt lt)
      exact fresh i a (Fin.le_castSucc_iff.mpr lt)
    intro a b same
    rcases lt_trichotomy a b with lt | eq | gt
    · exact absurd same (ordered a b lt)
    · exact eq
    · exact absurd same.symm (ordered b a gt)

/-- Of some initial segments of a list, one has all of them as initial segments. -/
theorem exists_longest {β : Type*} {parts : β → List α} {whole : List α} {runs : List β}
    (each : ∀ run ∈ runs, parts run <+: whole) :
    ∃ longest, longest <+: whole ∧ (∀ run ∈ runs, parts run <+: longest) ∧
      ∀ a ∈ longest, ∃ run ∈ runs, a ∈ parts run := by
  induction runs with
  | nil => exact ⟨[], List.nil_prefix, List.forall_mem_nil _, List.forall_mem_nil _⟩
  | cons run runs ih =>
    obtain ⟨first, later⟩ := List.forall_mem_cons.mp each
    obtain ⟨longest, within, bounds, covered⟩ := ih later
    rcases List.prefix_or_prefix_of_prefix first within with shorter | longer
    · refine ⟨longest, within, List.forall_mem_cons.mpr ⟨shorter, bounds⟩, ?_⟩
      intro a member
      obtain ⟨other, listed, held⟩ := covered a member
      exact ⟨other, List.mem_cons_of_mem run listed, held⟩
    · refine ⟨parts run, first, List.forall_mem_cons.mpr ⟨List.prefix_rfl, ?_⟩, ?_⟩
      · exact fun other listed => (bounds other listed).trans longer
      · exact fun a member => ⟨run, List.mem_cons_self, member⟩

end Chain
