import Mathlib.Data.List.Sort
import Mathlib.Data.Prod.Lex
import Mathlib.Data.Int.Cast.Basic
import Mathlib.Data.Int.Order.Basic
import Mathlib.Algebra.GroupWithZero.Nat

/-!
# Selection by priority under a size limit

A stable sort by a key in a linear order, and a single pass over a list that
keeps every forced element and every other element that still fits under a
size limit.  `prefix_greedy_iff` says when a given header leads the result of
sorting and selecting.  The order in which the elements arrive does not matter
to the sort when the key tells them apart (`sortBy_eq_of_perm`), and matters as
soon as it does not (`eq_of_sortBy_reverse`).

A sub-collection of the positions of a list is a mask.  `marks` is the mask of
the pass, and `eq_or_precedes_marks` says what it is best at: of all the masks
that keep the forced elements and stay within the limit, it comes first in the
order that compares two masks where they first differ.
-/

namespace Priority

variable {α κ : Type*} [LinearOrder κ]

/-- `sorted(xs, key=key)`: stable. -/
def sortBy (key : α → κ) (xs : List α) : List α :=
  xs.insertionSort fun a b => key a ≤ key b

instance sortKey_total (key : α → κ) : Std.Total fun a b => key a ≤ key b :=
  ⟨fun a b => le_total (key a) (key b)⟩

instance sortKey_trans (key : α → κ) : IsTrans α fun a b => key a ≤ key b := ⟨fun _ _ _ => le_trans⟩

theorem sortBy_perm (key : α → κ) (xs : List α) : (sortBy key xs).Perm xs :=
  List.perm_insertionSort _ xs

theorem sortBy_pairwise (key : α → κ) (xs : List α) :
    (sortBy key xs).Pairwise fun a b => key a ≤ key b :=
  List.pairwise_insertionSort _ xs

/-- Sorting after a map is sorting by what the map makes of the key. -/
theorem sortBy_map {β : Type*} (key : α → κ) (f : β → α) (xs : List β) :
    sortBy key (xs.map f) = (sortBy (fun x => key (f x)) xs).map f := by
  symm
  exact List.map_insertionSort _ _ f xs fun a _ b _ => Iff.rfl

/-- A sorted header no element of the tail undercuts stays in front. -/
theorem sortBy_append {key : α → κ} {header tail : List α}
    (ordered : header.Pairwise fun a b => key a ≤ key b)
    (above : ∀ b ∈ tail, ∀ a ∈ header, key a ≤ key b) :
    sortBy key (header ++ tail) = header ++ sortBy key tail := by
  induction header with
  | nil => rfl
  | cons a header ih =>
    rw [List.pairwise_cons] at ordered
    have least : ∀ b ∈ header ++ tail, key a ≤ key b := by
      intro b member
      rcases List.mem_append.mp member with inHeader | inTail
      · exact ordered.1 b inHeader
      · exact above b inTail a List.mem_cons_self
    have rest := ih ordered.2 fun b inTail c inHeader =>
      above b inTail c (List.mem_cons_of_mem a inHeader)
    rw [sortBy] at rest ⊢
    rw [List.cons_append, List.insertionSort_cons_of_forall_rel _ least, rest]
    rfl

/-- An element that is below all others is inserted in front. -/
theorem orderedInsert_of_forall_le {key : α → κ} {x : α} {xs : List α}
    (least : ∀ y ∈ xs, key x ≤ key y) :
    xs.orderedInsert (fun a b => key a ≤ key b) x = x :: xs := by
  cases xs with
  | nil => rfl
  | cons y ys => exact List.orderedInsert_cons_of_le _ ys (least y List.mem_cons_self)

theorem filter_orderedInsert {key : α → κ} {counts : α → Bool} {x : α} {xs : List α}
    (sorted : xs.Pairwise fun a b => key a ≤ key b) :
    (xs.orderedInsert (fun a b => key a ≤ key b) x).filter counts =
      if counts x then (xs.filter counts).orderedInsert (fun a b => key a ≤ key b) x
      else xs.filter counts := by
  induction xs with
  | nil =>
    rw [List.orderedInsert_nil, List.filter_cons]
    rfl
  | cons y ys ih =>
    obtain ⟨above, sorted⟩ := List.pairwise_cons.mp sorted
    by_cases le : key x ≤ key y
    · have least : ∀ z ∈ (y :: ys).filter counts, key x ≤ key z := by
        intro z member
        rcases List.mem_cons.mp (List.mem_filter.mp member).1 with rfl | later
        · exact le
        · exact le.trans (above z later)
      rw [List.orderedInsert_cons_of_le _ ys le, List.filter_cons,
        orderedInsert_of_forall_le least]
    · rw [List.orderedInsert_of_not_le _ ys le, List.filter_cons, List.filter_cons, ih sorted]
      cases counts y with
      | false => rfl
      | true =>
        cases counts x with
        | false => rfl
        | true =>
          exact (List.orderedInsert_of_not_le (fun a b => key a ≤ key b) _ le).symm

/-- A stable sort keeps the order of the elements that count, whatever else is sorted with them. -/
theorem filter_sortBy (key : α → κ) (counts : α → Bool) (xs : List α) :
    (sortBy key xs).filter counts = sortBy key (xs.filter counts) := by
  induction xs with
  | nil => rfl
  | cons x xs ih =>
    have sorted := sortBy_pairwise key xs
    rw [sortBy] at ih sorted ⊢
    rw [List.insertionSort_cons, filter_orderedInsert sorted, ih, List.filter_cons]
    cases counts x with
    | false => rfl
    | true => rfl

/-! ## Order of arrival -/

/-- Elements the key tells apart are sorted the same way, however they arrive. -/
theorem sortBy_eq_of_perm {key : α → κ} {xs ys : List α} (perm : xs.Perm ys)
    (separates : ∀ a ∈ xs, ∀ b ∈ xs, key a = key b → a = b) : sortBy key xs = sortBy key ys := by
  have sorted : (sortBy key xs).Perm (sortBy key ys) :=
    (sortBy_perm key xs).trans (perm.trans (sortBy_perm key ys).symm)
  refine sorted.eq_of_pairwise ?_ (sortBy_pairwise key xs) (sortBy_pairwise key ys)
  intro a b inFirst inSecond below above
  have fromFirst : a ∈ xs := (sortBy_perm key xs).mem_iff.mp inFirst
  have fromSecond : b ∈ xs := perm.mem_iff.mpr ((sortBy_perm key ys).mem_iff.mp inSecond)
  exact separates a fromFirst b fromSecond (le_antisymm below above)

/-- A sorted list is left as it stands. -/
theorem sortBy_eq_self {key : α → κ} {xs : List α}
    (ordered : xs.Pairwise fun a b => key a ≤ key b) : sortBy key xs = xs :=
  List.Pairwise.insertionSort_eq ordered

/-- What has been sorted and cut is sorted. -/
theorem sortBy_take_sortBy (key : α → κ) (xs : List α) (n : ℕ) :
    sortBy key ((sortBy key xs).take n) = (sortBy key xs).take n :=
  sortBy_eq_self ((sortBy_pairwise key xs).sublist (List.take_sublist n _))

/-- An insertion commutes with a map that keeps the comparisons it makes. -/
theorem map_orderedInsert {β μ : Type*} [LinearOrder μ] (key : α → κ) (other : β → μ) (f : β → α)
    {x : β} {xs : List β} (same : ∀ y ∈ xs, other x ≤ other y ↔ key (f x) ≤ key (f y)) :
    (xs.orderedInsert (fun a b => other a ≤ other b) x).map f =
      (xs.map f).orderedInsert (fun a b => key a ≤ key b) (f x) := by
  induction xs with
  | nil => rfl
  | cons y ys ih =>
    obtain ⟨first, rest⟩ := List.forall_mem_cons.mp same
    rw [List.map_cons]
    by_cases le : other x ≤ other y
    · rw [List.orderedInsert_cons_of_le (fun a b => other a ≤ other b) ys le,
        List.orderedInsert_cons_of_le (fun a b => key a ≤ key b) _ (first.mp le)]
      rfl
    · have not : ¬ key (f x) ≤ key (f y) := fun le' => le (first.mpr le')
      rw [List.orderedInsert_of_not_le (fun a b => other a ≤ other b) _ le,
        List.orderedInsert_of_not_le (fun a b => key a ≤ key b) _ not, List.map_cons, ih rest]

/-- Breaking ties by position is what a stable sort does by itself. -/
theorem sortBy_zipIdx (key : α → κ) (xs : List α) (start : ℕ) :
    (sortBy (fun entry => toLex (key entry.1, entry.2)) (xs.zipIdx start)).map Prod.fst =
      sortBy key xs := by
  induction xs generalizing start with
  | nil => rfl
  | cons x xs ih =>
    have first : ∀ entry ∈ sortBy (fun entry => toLex (key entry.1, entry.2))
        (xs.zipIdx (start + 1)),
        toLex (key x, start) ≤ toLex (key entry.1, entry.2) ↔ key x ≤ key entry.1 := by
      intro entry member
      have inTail : entry ∈ xs.zipIdx (start + 1) :=
        (List.perm_insertionSort _ _).mem_iff.mp member
      have above : start + 1 ≤ entry.2 := (List.mem_zipIdx inTail).1
      rw [Prod.Lex.toLex_le_toLex]
      refine ⟨?_, ?_⟩
      · intro h
        rcases h with lt | ⟨eq, -⟩
        · exact lt.le
        · exact eq.le
      · intro le
        rcases le.lt_or_eq with lt | eq
        · exact .inl lt
        · exact .inr ⟨eq, by omega⟩
    have insert := map_orderedInsert key (fun entry => toLex (key entry.1, entry.2)) Prod.fst
      (x := (x, start)) first
    rw [ih] at insert
    exact insert

/-- Elements of one key stay in the order they arrive in. -/
theorem sortBy_eq_self_of_tied {key : α → κ} {k : κ} {xs : List α} (tied : ∀ a ∈ xs, key a = k) :
    sortBy key xs = xs := by
  refine List.Pairwise.insertionSort_eq (List.pairwise_of_forall_mem_list ?_)
  intro a inList b alsoInList
  rw [tied a inList, tied b alsoInList]

/-- A list without duplicates that is its own reverse has one element at most. -/
theorem eq_of_reverse_eq {xs : List α} (nodup : xs.Nodup) (palindrome : xs.reverse = xs) {a b : α}
    (inList : a ∈ xs) (alsoInList : b ∈ xs) : a = b := by
  cases xs with
  | nil => cases inList
  | cons x xs =>
    have tail : xs = [] := by
      rw [List.reverse_cons] at palindrome
      cases reversed : xs.reverse with
      | nil => exact List.reverse_eq_nil_iff.mp reversed
      | cons y ys =>
        rw [reversed, List.cons_append, List.cons.injEq] at palindrome
        have again : x ∈ xs := by
          rw [← List.mem_reverse, reversed, palindrome.1]
          exact List.mem_cons_self
        exact absurd again (List.nodup_cons.mp nodup).1
    rw [tail, List.mem_singleton] at inList alsoInList
    rw [inList, alsoInList]

/-- Two different elements of one key come out the other way round when the
list is reversed. -/
theorem eq_of_sortBy_reverse {key : α → κ} {xs : List α} (nodup : xs.Nodup)
    (same : sortBy key xs.reverse = sortBy key xs) {a b : α} (inList : a ∈ xs)
    (alsoInList : b ∈ xs) (tied : key a = key b) : a = b := by
  let counts : α → Bool := fun x => decide (key x = key b)
  -- the class of `b` is left as it stands, and so is its reverse
  have class_eq : (xs.filter counts).reverse = xs.filter counts := by
    have ofClass : ∀ ys : List α, sortBy key (ys.filter counts) = ys.filter counts :=
      fun ys => sortBy_eq_self_of_tied fun x member =>
        of_decide_eq_true (List.mem_filter.mp member).2
    calc (xs.filter counts).reverse
        = sortBy key (xs.reverse.filter counts) := by rw [ofClass, List.filter_reverse]
      _ = sortBy key (xs.filter counts) := by rw [← filter_sortBy, same, filter_sortBy]
      _ = xs.filter counts := ofClass xs
  have first : a ∈ xs.filter counts := List.mem_filter.mpr ⟨inList, decide_eq_true tied⟩
  have second : b ∈ xs.filter counts := List.mem_filter.mpr ⟨alsoInList, decide_eq_true rfl⟩
  exact eq_of_reverse_eq (nodup.filter counts) class_eq first second

/-! ## The greedy pass -/

/-- The kept and the dropped elements of one pass, `used` being the size kept so far. -/
def greedy (forced : α → Bool) (size : α → ℕ) (limit : ℤ) : ℕ → List α → List α × List α
  | _, [] => ([], [])
  | used, x :: xs =>
    if forced x ∨ ((used + size x : ℕ) : ℤ) ≤ limit then
      let rest := greedy forced size limit (used + size x) xs
      (x :: rest.1, rest.2)
    else
      let rest := greedy forced size limit used xs
      (rest.1, x :: rest.2)

variable {forced : α → Bool} {size : α → ℕ} {limit : ℤ}

theorem greedy_kept_sublist (used : ℕ) (xs : List α) :
    (greedy forced size limit used xs).1.Sublist xs := by
  induction xs generalizing used with
  | nil => exact .slnil
  | cons x xs ih =>
    rw [greedy]
    split
    · exact .cons_cons x (ih _)
    · exact .cons x (ih _)

theorem greedy_dropped_sublist (used : ℕ) (xs : List α) :
    (greedy forced size limit used xs).2.Sublist xs := by
  induction xs generalizing used with
  | nil => exact .slnil
  | cons x xs ih =>
    rw [greedy]
    split
    · exact .cons x (ih _)
    · exact .cons_cons x (ih _)

/-- Every occurrence is kept or dropped. -/
theorem greedy_perm (used : ℕ) (xs : List α) :
    ((greedy forced size limit used xs).1 ++ (greedy forced size limit used xs).2).Perm xs := by
  induction xs generalizing used with
  | nil => exact .nil
  | cons x xs ih =>
    rw [greedy]
    split
    · exact (ih _).cons x
    · exact List.perm_middle.trans ((ih _).cons x)

/-- No forced element is dropped, and none is reordered. -/
theorem filter_greedy_kept (used : ℕ) (xs : List α) :
    (greedy forced size limit used xs).1.filter forced = xs.filter forced := by
  induction xs generalizing used with
  | nil => rfl
  | cons x xs ih =>
    rw [greedy]
    split
    · rw [List.filter_cons, List.filter_cons, ih]
    · next fits =>
      rw [List.filter_cons, if_neg fun isForced => fits (.inl isForced), ih]

/-- A forced header is kept as it stands. -/
theorem greedy_append {header : List α} (isForced : ∀ a ∈ header, forced a) (used : ℕ)
    (tail : List α) :
    ∃ rest, (greedy forced size limit used (header ++ tail)).1 = header ++ rest := by
  induction header generalizing used with
  | nil => exact ⟨_, rfl⟩
  | cons a header ih =>
    obtain ⟨rest, kept⟩ :=
      ih (fun b inHeader => isForced b (List.mem_cons_of_mem a inHeader)) (used + size a)
    refine ⟨rest, ?_⟩
    rw [List.cons_append, greedy, if_pos (.inl (isForced a List.mem_cons_self))]
    exact congrArg (a :: ·) kept

/-- A sorted, forced header leads the selection exactly when no element of the
tail has a smaller key, provided the elements that would undercut it are forced. -/
theorem prefix_greedy_iff {key : α → κ} {header tail : List α}
    (ordered : header.Pairwise fun a b => key a ≤ key b) (isForced : ∀ a ∈ header, forced a)
    (forcedBelow : ∀ b ∈ tail, ∀ a ∈ header, key b < key a → forced b) (used : ℕ) :
    header <+: (greedy forced size limit used (sortBy key (header ++ tail))).1 ↔
      ∀ b ∈ tail, ∀ a ∈ header, key a ≤ key b := by
  refine ⟨?_, ?_⟩
  · intro h b inTail a inHeader
    rcases h with ⟨rest, selection⟩
    by_contra undercut
    -- every forced element of the tail is selected after the header, as often as it occurs
    have counts : (rest.filter forced).Perm (tail.filter forced) := by
      have kept : (greedy forced size limit used (sortBy key (header ++ tail))).1.filter forced =
          (sortBy key (header ++ tail)).filter forced :=
        filter_greedy_kept used (sortBy key (header ++ tail))
      rw [← selection, List.filter_append] at kept
      have perm := (sortBy_perm key (header ++ tail)).filter forced
      rw [← kept, List.filter_append] at perm
      exact (List.perm_append_left_iff _).mp perm
    have selected : b ∈ rest := by
      have below := forcedBelow b inTail a inHeader (not_le.mp undercut)
      exact (List.mem_filter.mp (counts.mem_iff.mpr (List.mem_filter.mpr ⟨inTail, below⟩))).1
    have sorted : (header ++ rest).Pairwise fun a b => key a ≤ key b := by
      rw [selection]
      exact (sortBy_pairwise key _).sublist (greedy_kept_sublist used _)
    exact undercut ((List.pairwise_append.mp sorted).2.2 a inHeader b selected)
  · intro above
    rw [sortBy_append ordered above]
    have leads : ∃ rest, (greedy forced size limit used (header ++ sortBy key tail)).1 =
        header ++ rest :=
      greedy_append isForced used (sortBy key tail)
    obtain ⟨rest, kept⟩ := leads
    exact ⟨rest, kept.symm⟩

/-! ## Masks -/

/-- The elements at the positions the mask marks. -/
def pick : List Bool → List α → List α
  | true :: mask, x :: xs => x :: pick mask xs
  | false :: mask, _ :: xs => pick mask xs
  | _, _ => []

/-- The mask is one of `xs`, and marks every forced element. -/
def Covers (forced : α → Bool) (mask : List Bool) (xs : List α) : Prop :=
  List.Forall₂ (fun marked x => forced x = true → marked = true) mask xs

/-- The total size of a list. -/
def total (size : α → ℕ) (xs : List α) : ℕ := (xs.map size).sum

@[simp] theorem total_nil : total size [] = 0 := rfl

@[simp] theorem total_cons (x : α) (xs : List α) : total size (x :: xs) = size x + total size xs :=
  List.sum_cons

theorem total_append (xs ys : List α) : total size (xs ++ ys) = total size xs + total size ys := by
  unfold total
  rw [List.map_append, List.sum_append]

theorem total_perm {xs ys : List α} (perm : xs.Perm ys) : total size xs = total size ys :=
  (perm.map size).sum_nat

/-- Where the masks first differ, the first one marks and the second does not. -/
def Precedes (first second : List Bool) : Prop :=
  ∃ k, first.take k = second.take k ∧ first[k]? = some true ∧ second[k]? = some false

theorem Precedes.cons {first second : List Bool} (precedes : Precedes first second)
    (marked : Bool) : Precedes (marked :: first) (marked :: second) := by
  obtain ⟨k, same, inFirst, inSecond⟩ := precedes
  exact ⟨k + 1, congrArg (marked :: ·) same, inFirst, inSecond⟩

theorem Precedes.head (first second : List Bool) : Precedes (true :: first) (false :: second) :=
  ⟨0, rfl, rfl, rfl⟩

/-- The decisions of the greedy pass. -/
def marks (forced : α → Bool) (size : α → ℕ) (limit : ℤ) : ℕ → List α → List Bool
  | _, [] => []
  | used, x :: xs =>
    if forced x ∨ ((used + size x : ℕ) : ℤ) ≤ limit then
      true :: marks forced size limit (used + size x) xs
    else
      false :: marks forced size limit used xs

theorem greedy_eq_pick (used : ℕ) (xs : List α) :
    greedy forced size limit used xs =
      (pick (marks forced size limit used xs) xs,
        pick ((marks forced size limit used xs).map not) xs) := by
  induction xs generalizing used with
  | nil => rfl
  | cons x xs ih =>
    rw [greedy, marks]
    split
    · rw [ih]
      rfl
    · rw [ih]
      rfl

theorem covers_marks (used : ℕ) (xs : List α) :
    Covers forced (marks forced size limit used xs) xs := by
  induction xs generalizing used with
  | nil => exact .nil
  | cons x xs ih =>
    rw [marks]
    split
    · exact .cons (fun _ => rfl) (ih _)
    · next dropped => exact .cons (fun isForced => absurd (.inl isForced) dropped) (ih _)

/-- Whatever else covers the forced elements within the limit marks less where
it first differs from the greedy pass. -/
theorem eq_or_precedes_marks {used : ℕ} {xs : List α} {mask : List Bool}
    (covers : Covers forced mask xs)
    (within : ((used + total size (pick mask xs) : ℕ) : ℤ) ≤ limit) :
    mask = marks forced size limit used xs ∨ Precedes (marks forced size limit used xs) mask := by
  induction covers generalizing used with
  | nil => exact .inl rfl
  | @cons marked x mask xs isMarked _ ih =>
    rw [marks]
    cases marked with
    | true =>
      rw [pick, total_cons] at within
      have fits : ((used + size x : ℕ) : ℤ) ≤ limit := by omega
      rw [if_pos (.inr fits)]
      have later : ((used + size x + total size (pick mask xs) : ℕ) : ℤ) ≤ limit := by omega
      rcases ih later with same | precedes
      · exact .inl (congrArg (true :: ·) same)
      · exact .inr (precedes.cons true)
    | false =>
      split
      · exact .inr (.head _ _)
      · rcases ih within with same | precedes
        · exact .inl (congrArg (false :: ·) same)
        · exact .inr (precedes.cons false)

/-! ## The limit -/

/-- No forced element comes after one that is not forced. -/
def ForcedFirst (forced : α → Bool) (xs : List α) : Prop :=
  xs.Pairwise fun a b => forced b = true → forced a = true

/-- When the forced elements come first and fit, all that is kept fits. -/
theorem greedy_kept_within {used : ℕ} {xs : List α} (first : ForcedFirst forced xs)
    (fits : ((used + total size (xs.filter forced) : ℕ) : ℤ) ≤ limit) :
    ((used + total size (greedy forced size limit used xs).1 : ℕ) : ℤ) ≤ limit := by
  induction xs generalizing used with
  | nil => exact fits
  | cons x xs ih =>
    obtain ⟨forcedBefore, first⟩ := List.pairwise_cons.mp first
    rw [greedy]
    cases isForced : forced x with
    | true =>
      rw [List.filter_cons_of_pos isForced, total_cons] at fits
      rw [if_pos (.inl rfl)]
      have smaller : ((used + size x + total size (xs.filter forced) : ℕ) : ℤ) ≤ limit := by omega
      have rest := ih first smaller
      rw [total_cons]
      omega
    | false =>
      have none : xs.filter forced = [] := by
        refine List.filter_eq_nil_iff.mpr fun y member later => ?_
        rw [forcedBefore y member later] at isForced
        cases isForced
      rw [List.filter_cons_of_neg (by rw [isForced]; exact Bool.false_ne_true), none,
        total_nil] at fits
      split
      · next within =>
        rcases within with impossible | within
        · cases impossible
        have smaller : ((used + size x + total size (xs.filter forced) : ℕ) : ℤ) ≤ limit := by
          rw [none, total_nil]
          omega
        have rest := ih first smaller
        rw [total_cons]
        omega
      · have same : ((used + total size (xs.filter forced) : ℕ) : ℤ) ≤ limit := by
          rw [none, total_nil]
          exact fits
        exact ih first same

/-- When everything fits, everything is kept. -/
theorem greedy_kept_of_fits {used : ℕ} {xs : List α}
    (fits : ((used + total size xs : ℕ) : ℤ) ≤ limit) :
    (greedy forced size limit used xs).1 = xs := by
  induction xs generalizing used with
  | nil => rfl
  | cons x xs ih =>
    rw [total_cons] at fits
    rw [greedy, if_pos (.inr (by omega))]
    exact congrArg (x :: ·) (ih (by omega))

/-- Nothing that was dropped fits beside what was kept. -/
theorem limit_lt_of_mem_dropped {used : ℕ} {xs : List α} {x : α}
    (dropped : x ∈ (greedy forced size limit used xs).2) :
    limit < ((used + total size (greedy forced size limit used xs).1 + size x : ℕ) : ℤ) := by
  induction xs generalizing used with
  | nil => cases dropped
  | cons y xs ih =>
    rw [greedy] at dropped ⊢
    split at dropped <;> rename_i fits
    · rw [if_pos fits]
      have later := ih dropped
      rw [total_cons]
      omega
    · rw [if_neg fits]
      rcases List.mem_cons.mp dropped with rfl | inTail
      · have above := fun within => fits (.inr within)
        omega
      · exact ih inTail

end Priority
