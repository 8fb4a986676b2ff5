import Mathlib.Order.WithBot

/-!
# Optional upper bounds

A bound is an `Option α`; an absent bound allows everything.  `within outer inner`
decides whether `inner` allows no more than `outer` does.  It is the order of
`WithTop α` with the absent bound as its greatest element, so every fact about
nested bounds is one about that order.

A family of bounds admits a vector of amounts when each amount is within its
bound.  `ceiling_le_iff_admits` reads the order off the vectors that are
admitted.
-/

namespace Bounds

variable {α : Type*}

/-- The greatest amount a bound allows, `⊤` when it is absent. -/
def ceiling : Option α → WithTop α
  | none => ⊤
  | some a => a

theorem ceiling_injective : Function.Injective (ceiling : Option α → WithTop α) := by
  intro bound other same
  cases bound with
  | none =>
    cases other with
    | none => rfl
    | some limit => exact absurd same (WithTop.top_ne_coe)
  | some limit =>
    cases other with
    | none => exact absurd same (WithTop.coe_ne_top)
    | some limit' => exact congrArg some (WithTop.coe_injective same)

/-- `inner` is set wherever `outer` is, and is no larger. -/
def within [LE α] [DecidableLE α] (outer inner : Option α) : Bool :=
  match outer, inner with
  | none, _ => true
  | some _, none => false
  | some p, some c => decide (c ≤ p)

theorem within_iff [LinearOrder α] {outer inner : Option α} :
    within outer inner = true ↔ ceiling inner ≤ ceiling outer := by
  cases outer with
  | none => simp [within, ceiling]
  | some p =>
    cases inner with
    | none => simp [within, ceiling]
    | some c => simp [within, ceiling]

/-! ## Amounts within a family of bounds -/

section

variable {ι : Type*} [LinearOrder α] {inner outer : ι → Option α} {usage : ι → α}

/-- Every amount is within its bound, where there is one. -/
def Admits (bounds : ι → Option α) (usage : ι → α) : Prop :=
  ∀ i, ∀ limit ∈ bounds i, usage i ≤ limit

theorem admits_iff {bounds : ι → Option α} :
    Admits bounds usage ↔ ∀ i, (usage i : WithTop α) ≤ ceiling (bounds i) := by
  refine forall_congr' fun i => ?_
  cases bounds i with
  | none => simp [ceiling]
  | some limit => simp [ceiling]

theorem Admits.mono (le : ∀ i, ceiling (inner i) ≤ ceiling (outer i))
    (admits : Admits inner usage) : Admits outer usage := by
  rw [admits_iff] at admits ⊢
  exact fun i => (admits i).trans (le i)

/-- Between two different bounds there is an amount, in every set that has the
greater bound and no greatest member. -/
theorem exists_between_ceilings {amounts : Set α} {less more : Option α}
    (attained : ∀ limit ∈ more, limit ∈ amounts) (unbounded : ∀ a, ∃ b ∈ amounts, a < b)
    (lt : ceiling less < ceiling more) :
    ∃ amount ∈ amounts, (amount : WithTop α) ≤ ceiling more ∧
      ceiling less < (amount : WithTop α) := by
  cases more with
  | some limit => exact ⟨limit, attained limit rfl, le_rfl, lt⟩
  | none =>
    cases less with
    | none => exact absurd lt (lt_irrefl _)
    | some limit =>
      obtain ⟨amount, counted, greater⟩ := unbounded limit
      exact ⟨amount, counted, le_top, WithTop.coe_lt_coe.mpr greater⟩

/-- One family of bounds is within another exactly when it admits no vector of
amounts the other does not. -/
theorem ceiling_le_iff_admits {amounts : ι → Set α}
    (attained : ∀ i, ∀ limit ∈ inner i, limit ∈ amounts i)
    (unbounded : ∀ i a, ∃ b ∈ amounts i, a < b) :
    (∀ i, ceiling (inner i) ≤ ceiling (outer i)) ↔
      ∀ usage : ι → α, (∀ i, usage i ∈ amounts i) → Admits inner usage → Admits outer usage := by
  classical
  refine ⟨fun le usage _ admits => admits.mono le, ?_⟩
  intro includes i
  by_contra exceeds
  rw [not_le] at exceeds
  -- Every field at an amount `inner` admits, the field `i` at one `outer` does not.
  obtain ⟨amount, counted, within, beyond⟩ :=
    exists_between_ceilings (attained i) (unbounded i) exceeds
  have admitted : ∀ j, ∃ a ∈ amounts j, (a : WithTop α) ≤ ceiling (inner j) := by
    intro j
    cases bound : inner j with
    | none =>
      obtain ⟨a, member, -⟩ := unbounded j amount
      exact ⟨a, member, le_top⟩
    | some limit => exact ⟨limit, attained j limit bound, le_rfl⟩
  choose base member below using admitted
  have counts : ∀ j, Function.update base i amount j ∈ amounts j := by
    intro j
    by_cases same : j = i
    · subst same
      rwa [Function.update_self]
    · rw [Function.update_of_ne same]
      exact member j
  have inside : Admits inner (Function.update base i amount) := by
    rw [admits_iff]
    intro j
    by_cases same : j = i
    · subst same
      rwa [Function.update_self]
    · rw [Function.update_of_ne same]
      exact below j
  have outside := admits_iff.mp (includes _ counts inside) i
  rw [Function.update_self] at outside
  exact absurd outside (not_le.mpr beyond)

end

end Bounds
