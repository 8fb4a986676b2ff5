import Mathlib.Algebra.Order.BigOperators.Group.List
import Mathlib.Algebra.Ring.GeomSum
import Mathlib.Data.Nat.Cast.Basic
import Mathlib.Logic.Relation

/-!
# Growth of bounded height and branching

A population grows when one of its members gets a child, a level below it.  It
may do so while it lies above the last level and has fewer children than allowed.
`room` counts the descendants a member may still get, and what a growth step adds
to the population it takes from the rooms (`Grows.weight_eq`).  So in whatever
order a population grows, it stops, at a size known beforehand.
-/

/-- What growth looks at, and the last level and the number of children it allows. -/
structure Branching (α : Type*) where
  depth : α → ℕ
  children : α → ℕ
  height : ℕ
  branching : ℕ

namespace Branching

open Finset Relation

variable {α : Type*} {b : Branching α}

/-- The member may get another child. -/
structure Open (b : Branching α) (a : α) : Prop where
  above : b.depth a < b.height
  fewer : b.children a < b.branching

/-- The descendants a member may still get: a full tree below every child it lacks. -/
def room (b : Branching α) (a : α) : ℕ :=
  (b.branching - b.children a) * ∑ i ∈ range (b.height - b.depth a), b.branching ^ i

/-- The size of a population, and of all it may still grow to. -/
def weight (b : Branching α) (xs : List α) : ℕ := xs.length + (xs.map b.room).sum

/-- The parent has one child more, and the child is a level below it and has none. -/
structure Bears (b : Branching α) (parent grown child : α) : Prop where
  admitted : b.Open parent
  kept : b.depth grown = b.depth parent
  counted : b.children grown = b.children parent + 1
  deeper : b.depth child = b.depth parent + 1
  childless : b.children child = 0

/-- One member of the population gets a child. -/
inductive Grows (b : Branching α) : List α → List α → Prop
  | mk {before after : List α} {parent grown child : α} (bears : b.Bears parent grown child) :
    Grows b (before ++ parent :: after) (before ++ grown :: (after ++ [child]))

/-! ## Rooms -/

theorem room_pos_iff {a : α} : 0 < b.room a ↔ b.Open a := by
  unfold room
  refine ⟨?_, ?_⟩
  · intro positive
    refine ⟨?_, ?_⟩
    · by_contra bottom
      rw [Nat.sub_eq_zero_of_le (not_lt.mp bottom), sum_range_zero, Nat.mul_zero] at positive
      exact positive.false
    · by_contra filled
      rw [Nat.sub_eq_zero_of_le (not_lt.mp filled), Nat.zero_mul] at positive
      exact positive.false
  · rintro ⟨above, fewer⟩
    have levels : b.height - b.depth a = b.height - b.depth a - 1 + 1 := by omega
    rw [levels, geom_sum_succ]
    exact Nat.mul_pos (Nat.sub_pos_of_lt fewer) (Nat.succ_pos _)

/-- A child takes its place, and the room below it, from the room of its parent. -/
theorem Bears.room_eq {parent grown child : α} (bears : b.Bears parent grown child) :
    b.room parent = b.room grown + b.room child + 1 := by
  obtain ⟨⟨above, fewer⟩, kept, counted, deeper, childless⟩ := bears
  have places : b.branching - b.children parent = b.branching - b.children grown + 1 := by omega
  have levels : b.height - b.depth parent = b.height - b.depth child + 1 := by omega
  have below : b.room child =
      b.branching * ∑ i ∈ range (b.height - b.depth child), b.branching ^ i := by
    rw [room, childless, Nat.sub_zero]
  calc b.room parent
      = b.room grown + ∑ i ∈ range (b.height - b.depth parent), b.branching ^ i := by
        rw [room, room, places, kept, Nat.succ_mul]
    _ = b.room grown + (b.room child + 1) := by
        rw [levels, geom_sum_succ, below]

theorem weight_append {xs ys : List α} : b.weight (xs ++ ys) = b.weight xs + b.weight ys := by
  unfold weight
  rw [List.length_append, List.map_append, List.sum_append]
  omega

theorem weight_cons {a : α} {xs : List α} : b.weight (a :: xs) = b.room a + 1 + b.weight xs := by
  unfold weight
  rw [List.length_cons, List.map_cons, List.sum_cons]
  omega

/-! ## Growth -/

theorem Grows.length_eq {xs ys : List α} (grows : b.Grows xs ys) : ys.length = xs.length + 1 := by
  cases grows
  simp only [List.length_append, List.length_cons, List.length_nil]
  omega

theorem Grows.weight_eq {xs ys : List α} (grows : b.Grows xs ys) : b.weight ys = b.weight xs := by
  cases grows with
  | mk bears =>
    have exchanged := bears.room_eq
    simp only [weight_append, weight_cons]
    unfold weight
    simp only [List.length_nil, List.map_nil, List.sum_nil]
    omega

/-- The order of growth does not show in the weight. -/
theorem weight_of_grown {xs ys : List α} (grown : ReflTransGen b.Grows xs ys) :
    b.weight ys = b.weight xs := by
  induction grown with
  | refl => rfl
  | tail _ last ih => exact last.weight_eq.trans ih

theorem length_le_weight {xs : List α} : xs.length ≤ b.weight xs := Nat.le_add_right _ _

/-- A population has its full size exactly when nobody may get another child. -/
theorem full_iff {xs : List α} : xs.length = b.weight xs ↔ ∀ a ∈ xs, ¬ b.Open a := by
  have rooms : xs.length = b.weight xs ↔ (xs.map b.room).sum = 0 := by
    unfold weight
    omega
  rw [rooms, List.sum_eq_zero_iff_forall_eq_nat]
  simp only [List.forall_mem_map, ← room_pos_iff, Nat.not_lt, Nat.le_zero]

/-- Steps that grow a population, and are possible wherever a member may get a child,
lead to the full size and keep the invariant they keep. -/
theorem exists_full (Inv : List α → Prop) {R : List α → List α → Prop}
    (sound : ∀ xs ys, R xs ys → b.Grows xs ys)
    (step : ∀ xs, Inv xs → ∀ a ∈ xs, b.Open a → ∃ ys, R xs ys ∧ Inv ys)
    {xs : List α} (holds : Inv xs) :
    ∃ ys, ReflTransGen R xs ys ∧ Inv ys ∧ ∀ a ∈ ys, ¬ b.Open a := by
  by_cases closed : ∀ a ∈ xs, ¬ b.Open a
  · exact ⟨xs, .refl, holds, closed⟩
  push Not at closed
  obtain ⟨a, member, admitted⟩ := closed
  obtain ⟨ys, first, kept⟩ := step xs holds a member admitted
  -- the rooms shrink by what the population grows
  have grows := sound xs ys first
  have smaller : b.weight ys - ys.length < b.weight xs - xs.length := by
    have longer := grows.length_eq
    have same := grows.weight_eq
    have within : ys.length ≤ b.weight ys := length_le_weight
    omega
  obtain ⟨zs, rest, held, full⟩ := exists_full Inv sound step kept
  exact ⟨zs, .head first rest, held, full⟩
termination_by b.weight xs - xs.length

end Branching
