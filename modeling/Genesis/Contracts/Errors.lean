import Mathlib.Data.List.Lex
import Mathlib.Data.String.Basic
import Mathlib.Data.Sum.Order
import Genesis.Lib.Priority
import Genesis.Platform

/-!
# The first error of a payload

A schema library finds the errors of a payload, each at a path into it.  Both
contract checks sort them by path and report the first.  Paths are lists of keys
and positions, which Python compares only among themselves; `pathLt_of_located`
says that it never gets to compare a key with a position.
-/

namespace Genesis

open Py

/-! ## Paths -/

/-- A step into a document: a key of an object or a position in an array. -/
inductive PathPart : Type
  | key (name : String)
  | index (position : ℕ)
  deriving DecidableEq

namespace PathPart

/-- `str(part)`. -/
def text : PathPart → String
  | .key name => name
  | .index position => toString position

/-- `a < b`. -/
def lt : PathPart → PathPart → Except PyException Bool
  | .key a, .key b => .ok (a < b)
  | .index m, .index n => .ok (m < n)
  | _, _ => .error .typeError

/-- Keys and positions in one order, which puts keys first. -/
def rank : PathPart → Lex (String ⊕ ℕ)
  | .key name => Sum.inlₗ name
  | .index position => Sum.inrₗ position

theorem rank_injective : Function.Injective rank := by
  intro a b same
  cases a <;> cases b <;> simp_all [rank]

end PathPart

/-- The part of a document at a path. -/
def valueAt? : Json → List PathPart → Option Json
  | value, [] => some value
  | .obj fields, .key name :: rest => (Dict.get? fields name).bind fun value => valueAt? value rest
  | .arr items, .index position :: rest => items[position]?.bind fun value => valueAt? value rest
  | _, _ => none

/-- The path leads somewhere in the document. -/
def Located (document : Json) (path : List PathPart) : Prop :=
  (valueAt? document path).isSome = true

section

variable {document : Json} {p q : List PathPart}

theorem Located.key {name : String} (located : Located document (.key name :: p)) :
    ∃ fields child, document = .obj fields ∧ Dict.get? fields name = some child ∧
      Located child p := by
  unfold Located at located
  cases document with
  | obj fields =>
    rw [valueAt?, Option.isSome_bind, Option.any_eq_true] at located
    obtain ⟨child, found, rest⟩ := located
    exact ⟨fields, child, rfl, found, rest⟩
  | _ => cases located

theorem Located.index {position : ℕ} (located : Located document (.index position :: p)) :
    ∃ items child, document = .arr items ∧ items[position]? = some child ∧ Located child p := by
  unfold Located at located
  cases document with
  | arr items =>
    rw [valueAt?, Option.isSome_bind, Option.any_eq_true] at located
    obtain ⟨child, found, rest⟩ := located
    exact ⟨items, child, rfl, found, rest⟩
  | _ => cases located

/-! ## The order of paths -/

/-- `p < q`, for the lists of parts. -/
def pathLt : List PathPart → List PathPart → Except PyException Bool
  | [], [] => .ok false
  | [], _ :: _ => .ok true
  | _ :: _, [] => .ok false
  | a :: p, b :: q => if a = b then pathLt p q else a.lt b

def pathRank (path : List PathPart) : List (Lex (String ⊕ ℕ)) := path.map PathPart.rank

theorem pathRank_injective : Function.Injective pathRank :=
  List.map_injective_iff.mpr PathPart.rank_injective

theorem pathLt_cons {a : PathPart} (same : pathLt p q = .ok (decide (pathRank p < pathRank q))) :
    pathLt (a :: p) (a :: q) = .ok (decide (pathRank (a :: p) < pathRank (a :: q))) := by
  have smaller : pathRank (a :: p) < pathRank (a :: q) ↔ pathRank p < pathRank q :=
    List.cons_lt_cons_self
  rw [pathLt, if_pos rfl, same, decide_eq_decide.mpr smaller]

theorem pathLt_of_ne {a b : PathPart} (ne : a ≠ b)
    (compared : a.lt b = .ok (decide (a.rank < b.rank))) :
    pathLt (a :: p) (b :: q) = .ok (decide (pathRank (a :: p) < pathRank (b :: q))) := by
  have smaller : pathRank (a :: p) < pathRank (b :: q) ↔ a.rank < b.rank := by
    refine List.cons_lt_cons_iff.trans ⟨?_, .inl⟩
    rintro (first | ⟨same, -⟩)
    · exact first
    · exact absurd (PathPart.rank_injective same) ne
  rw [pathLt, if_neg ne, compared, decide_eq_decide.mpr smaller]

/-- Two paths into one document part at two keys or at two positions, so Python
compares them, in the order of their ranks. -/
theorem pathLt_of_located (located : Located document p) (located' : Located document q) :
    pathLt p q = .ok (decide (pathRank p < pathRank q)) := by
  induction p generalizing document q with
  | nil => cases q <;> rfl
  | cons a p ih =>
    cases q with
    | nil => rfl
    | cons b q =>
      cases a with
      | key name =>
        obtain ⟨fields, child, rfl, found, below⟩ := located.key
        cases b with
        | key other =>
          obtain ⟨_, child', same, found', below'⟩ := located'.key
          cases same
          by_cases equal : name = other
          · subst equal
            cases found.symm.trans found'
            exact pathLt_cons (ih below below')
          · refine pathLt_of_ne (by simpa using equal) ?_
            simp [PathPart.lt, PathPart.rank]
        | index =>
          obtain ⟨_, _, impossible, -⟩ := located'.index
          cases impossible
      | index position =>
        obtain ⟨items, child, rfl, found, below⟩ := located.index
        cases b with
        | key =>
          obtain ⟨_, _, impossible, -⟩ := located'.key
          cases impossible
        | index other =>
          obtain ⟨_, child', same, found', below'⟩ := located'.index
          cases same
          by_cases equal : position = other
          · subst equal
            cases found.symm.trans found'
            exact pathLt_cons (ih below below')
          · refine pathLt_of_ne (by simpa using equal) ?_
            simp [PathPart.lt, PathPart.rank]

end

/-! ## The first error -/

structure SchemaError where
  path : List PathPart
  message : String
  deriving DecidableEq

/-- `".".join(str(part) for part in path) or "$"`. -/
def pathText (path : List PathPart) : String :=
  let text := join "." (path.map PathPart.text)
  if text = "" then "$" else text

/-- The errors sorted by path, as `sorted` leaves them. -/
def sortedErrors (errors : List SchemaError) : List SchemaError :=
  Priority.sortBy (fun error => pathRank error.path) errors

/-- The path and the message of the first error. -/
def firstError (errors : List SchemaError) : Option (String × String) :=
  (sortedErrors errors).head?.map fun first => (pathText first.path, first.message)

section

variable {errors others : List SchemaError} {first : SchemaError}

theorem exists_head_of_mem (member : first ∈ errors) :
    ∃ least, (sortedErrors errors).head? = some least := by
  have perm : (sortedErrors errors).Perm errors := Priority.sortBy_perm _ errors
  cases sorted : sortedErrors errors with
  | nil =>
    rw [sorted] at perm
    rw [← perm.nil_eq] at member
    cases member
  | cons least rest => exact ⟨least, rfl⟩

/-- The first error is one of the errors, and no other has a smaller path. -/
theorem least_of_head (head : (sortedErrors errors).head? = some first) :
    first ∈ errors ∧ ∀ other ∈ errors, pathRank first.path ≤ pathRank other.path := by
  obtain ⟨rest, sorted⟩ := List.head?_eq_some_iff.mp head
  have perm : (first :: rest).Perm errors := sorted ▸ Priority.sortBy_perm _ errors
  have ordered : (first :: rest).Pairwise fun a b => pathRank a.path ≤ pathRank b.path :=
    sorted ▸ Priority.sortBy_pairwise (fun error => pathRank error.path) errors
  refine ⟨perm.mem_iff.mp List.mem_cons_self, ?_⟩
  intro other member
  rcases List.mem_cons.mp (perm.mem_iff.mpr member) with rfl | later
  · exact le_rfl
  · exact List.rel_of_pairwise_cons ordered later

/-- The path of the first error does not depend on the order the errors come in. -/
theorem path_eq_of_perm {second : SchemaError} (perm : errors.Perm others)
    (head : (sortedErrors errors).head? = some first)
    (head' : (sortedErrors others).head? = some second) : second.path = first.path := by
  obtain ⟨member, least⟩ := least_of_head head
  obtain ⟨member', least'⟩ := least_of_head head'
  refine pathRank_injective (le_antisymm ?_ ?_)
  · exact least' first (perm.mem_iff.mp member)
  · exact least second (perm.mem_iff.mpr member')

end

end Genesis
