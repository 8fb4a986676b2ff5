import Mathlib.Algebra.Order.Ring.Rat
import Mathlib.Data.List.Induction
import Mathlib.Data.List.Sort
import Mathlib.Data.String.Basic

/-!
# Python values

The built-in values of Python that a program over JSON documents computes
with: text, the order-preserving set idioms `dict.fromkeys` and
`sorted(set(a).difference(b))`, dictionaries in insertion order, and JSON
documents with their equality and `json.dumps(…, sort_keys=True)`.

A float is an exact rational here, to which `floatOfInt?` rounds an integer; how
Python prints one is an argument of `Json.dumps`.
-/

namespace Py

/-! ## Text -/

/-- `str.isspace` of one character. -/
def isSpace (c : Char) : Bool :=
  let n := c.toNat
  (9 ≤ n && n ≤ 13) || (28 ≤ n && n ≤ 32) || n == 0x85 || n == 0xa0 || n == 0x1680 ||
    (0x2000 ≤ n && n ≤ 0x200a) || n == 0x2028 || n == 0x2029 || n == 0x202f ||
    n == 0x205f || n == 0x3000

/-- The maximal runs of non-space characters, `word` being the one under way. -/
def splitChars (word : List Char) : List Char → List (List Char)
  | [] => if word.isEmpty then [] else [word]
  | c :: rest =>
    if isSpace c then
      if word.isEmpty then splitChars [] rest else word :: splitChars [] rest
    else splitChars (word ++ [c]) rest

/-- `str.split()`. -/
def split (s : String) : List String := (splitChars [] s.toList).map String.ofList

/-- `separator.join(words)`. -/
def join (separator : String) (words : List String) : String :=
  String.ofList (separator.toList.intercalate (words.map String.toList))

theorem one_le_length_iff {s : String} : 1 ≤ s.length ↔ s ≠ "" := by
  rw [← String.length_toList, ne_eq, ← String.toList_eq_nil_iff, ← List.length_eq_zero_iff]
  omega

/-! ## Searching text -/

/-- The regular expressions that are sequences of words, `\s+`, and optional parts. -/
inductive Pattern : Type
  | oneOf (words : List String)
  | spaces
  | optional (p : Pattern)
  | andThen (p q : Pattern)

namespace Pattern

/-- Equality of letters under `re.IGNORECASE`, `a` being a lower-case ASCII letter. -/
def sameLetter (a c : Char) : Bool :=
  c.toLower == a || (a == 'i' && (c.toNat == 0x130 || c.toNat == 0x131)) ||
    (a == 's' && c.toNat == 0x17f) || (a == 'k' && c.toNat == 0x212a)

/-- What follows a word at the start of a text. -/
def afterWord : List Char → List Char → Option (List Char)
  | [], text => some text
  | _ :: _, [] => none
  | a :: word, c :: text => if sameLetter a c then afterWord word text else none

/-- What may follow one or more spaces at the start of a text. -/
def afterSpaces : List Char → List (List Char)
  | [] => []
  | c :: text => if isSpace c then text :: afterSpaces text else []

/-- What may follow a match at the start of a text. -/
def rests : Pattern → List Char → List (List Char)
  | .oneOf words, text => words.filterMap fun word => afterWord word.toList text
  | .spaces, text => afterSpaces text
  | .optional p, text => text :: rests p text
  | .andThen p q, text => (rests p text).flatMap (rests q)

/-- `pattern.search(text) is not None`. -/
def search (p : Pattern) (text : String) : Bool :=
  text.toList.tails.any fun suffix => !(rests p suffix).isEmpty

end Pattern

/-! ## Sequences used as sets -/

/-- `tuple(dict.fromkeys(xs))`: first occurrences, in order. -/
def fromKeys {α : Type} [BEq α] (xs : List α) : List α := xs.eraseDups

@[simp] theorem mem_fromKeys {α : Type} [BEq α] [LawfulBEq α] {a : α} {xs : List α} :
    a ∈ fromKeys xs ↔ a ∈ xs :=
  List.mem_eraseDups

theorem nodup_fromKeys {α : Type} [BEq α] [LawfulBEq α] (xs : List α) : (fromKeys xs).Nodup := by
  unfold fromKeys
  induction h : xs.length using Nat.strong_induction_on generalizing xs with
  | _ n ih =>
    cases xs with
    | nil => exact List.nodup_nil
    | cons a xs =>
      rw [List.eraseDups_cons, List.nodup_cons]
      refine ⟨by simp, ih _ ?_ _ rfl⟩
      rw [← h]
      exact Nat.lt_succ_of_le (List.length_filter_le _ xs)

/-- `sorted(set(requested).difference(authorized))`. -/
def excess (requested authorized : List String) : List String :=
  ((fromKeys requested).filter fun r => r ∉ authorized).insertionSort (· ≤ ·)

theorem excess_eq_nil_iff {requested authorized : List String} :
    excess requested authorized = [] ↔ requested ⊆ authorized := by
  rw [← List.length_eq_zero_iff, excess, List.length_insertionSort, List.length_eq_zero_iff,
    List.filter_eq_nil_iff]
  simp only [mem_fromKeys, decide_eq_true_eq, not_not]
  rfl

theorem mem_excess {r : String} {requested authorized : List String} :
    r ∈ excess requested authorized ↔ r ∈ requested ∧ r ∉ authorized := by
  unfold excess
  rw [(List.perm_insertionSort _ _).mem_iff, List.mem_filter, mem_fromKeys, decide_eq_true_eq]

/-- The excess is sorted, without duplicates. -/
theorem pairwise_lt_excess (requested authorized : List String) :
    (excess requested authorized).Pairwise (· < ·) := by
  have sorted : (excess requested authorized).Pairwise (· ≤ ·) := List.pairwise_insertionSort _ _
  have nodup : (excess requested authorized).Nodup :=
    (List.perm_insertionSort _ _).nodup_iff.mpr ((nodup_fromKeys requested).filter _)
  exact (sorted.and nodup).imp fun both => lt_of_le_of_ne both.1 both.2

/-- `sorted(set(xs) & set(ys))`. -/
def common (xs ys : List String) : List String :=
  ((fromKeys xs).filter fun x => x ∈ ys).insertionSort (· ≤ ·)

theorem mem_common {x : String} {xs ys : List String} : x ∈ common xs ys ↔ x ∈ xs ∧ x ∈ ys := by
  unfold common
  rw [(List.perm_insertionSort _ _).mem_iff, List.mem_filter, mem_fromKeys, decide_eq_true_eq]

theorem nodup_common (xs ys : List String) : (common xs ys).Nodup :=
  (List.perm_insertionSort _ _).nodup_iff.mpr ((nodup_fromKeys xs).filter _)

/-! ## Dictionaries -/

/-- A `dict` with string keys, in insertion order. -/
abbrev Dict (α : Type) : Type := List (String × α)

namespace Dict

variable {α : Type}

/-- `d.get(key)`. -/
def get? (d : Dict α) (key : String) : Option α := d.lookup key

/-- `d[key] = value`: an existing key keeps its position. -/
def set (d : Dict α) (key : String) (value : α) : Dict α :=
  match d with
  | [] => [(key, value)]
  | (k, v) :: rest => if k = key then (k, value) :: rest else (k, v) :: set rest key value

/-- `{key: value for key, value in pairs}`. -/
def ofPairs (pairs : List (String × α)) : Dict α :=
  pairs.foldl (fun d kv => d.set kv.1 kv.2) []

/-- `d.values()`. -/
def values (d : Dict α) : List α := d.map Prod.snd

theorem get?_append (d e : Dict α) (key : String) :
    get? (d ++ e) key = (d.get? key).or (e.get? key) :=
  List.lookup_append

theorem get?_eq_none {d : Dict α} {key : String} (absent : key ∉ d.map Prod.fst) :
    d.get? key = none := by
  rw [get?, List.lookup_eq_none_iff]
  intro kv member
  have ne : key ≠ kv.1 := fun same => absent (same ▸ List.mem_map_of_mem member)
  simpa using ne

theorem get?_set (d : Dict α) (key k : String) (value : α) :
    (d.set key value).get? k = if k = key then some value else d.get? k := by
  induction d with
  | nil =>
    simp only [set, get?, List.lookup_cons, List.lookup_nil]
    split <;> simp_all
  | cons kv rest ih =>
    obtain ⟨k', v⟩ := kv
    simp only [set, get?] at ih ⊢
    by_cases same : k' = key
    · simp only [if_pos same, List.lookup_cons]
      split <;> simp_all
    · simp only [if_neg same, List.lookup_cons, ih]
      split <;> simp_all

/-- The last of two writes under one key stands. -/
theorem set_set (d : Dict α) (key : String) (first value : α) :
    (d.set key first).set key value = d.set key value := by
  induction d with
  | nil => simp [set]
  | cons kv rest ih =>
    obtain ⟨k, v⟩ := kv
    by_cases same : k = key
    · simp [set, same]
    · simp [set, same, ih]

/-- A second write under a key may come before one under another key. -/
theorem set_set_set {d : Dict α} {key other : String} (ne : key ≠ other) (first value kept : α) :
    ((d.set key first).set other kept).set key value = (d.set key value).set other kept := by
  induction d with
  | nil => simp [set, ne]
  | cons kv rest ih =>
    obtain ⟨k, v⟩ := kv
    by_cases same : k = key
    · subst same
      simp [set, ne]
    · by_cases same' : k = other
      · simp [set, same', ne.symm, set_set]
      · simp [set, same, same', ih]

theorem mem_keys_set {d : Dict α} {key k : String} {value : α} :
    k ∈ (d.set key value).map Prod.fst ↔ k = key ∨ k ∈ d.map Prod.fst := by
  induction d with
  | nil => simp [set]
  | cons kv rest ih =>
    obtain ⟨k', v⟩ := kv
    by_cases same : k' = key
    · simp only [set, if_pos same, List.map_cons, List.mem_cons]
      simp_all
    · simp only [set, if_neg same, List.map_cons, List.mem_cons, ih]
      exact or_left_comm

theorem nodup_keys_set {d : Dict α} (nodup : (d.map Prod.fst).Nodup) (key : String) (value : α) :
    ((d.set key value).map Prod.fst).Nodup := by
  induction d with
  | nil => simp [set]
  | cons kv rest ih =>
    obtain ⟨k', v⟩ := kv
    simp only [List.map_cons, List.nodup_cons] at nodup
    by_cases same : k' = key
    · simpa only [set, if_pos same, List.map_cons, List.nodup_cons] using nodup
    · simp only [set, if_neg same, List.map_cons, List.nodup_cons]
      refine ⟨fun member => ?_, ih nodup.2⟩
      rcases mem_keys_set.mp member with eq | old
      · exact same eq
      · exact nodup.1 old

/-- The value under a key is the last one written there. -/
theorem get?_ofPairs (pairs : List (String × α)) (key : String) :
    (ofPairs pairs).get? key = pairs.reverse.lookup key := by
  induction pairs using List.reverseRecOn with
  | nil => rfl
  | append_singleton pairs kv ih =>
    obtain ⟨k, v⟩ := kv
    simp only [ofPairs] at ih
    simp only [ofPairs, List.foldl_append, List.foldl_cons, List.foldl_nil, get?_set,
      List.reverse_append, List.reverse_cons, List.reverse_nil, List.nil_append,
      List.singleton_append, List.lookup_cons, ih]
    by_cases same : key = k
    · simp [same]
    · simp [same, beq_eq_false_iff_ne.mpr same]

theorem set_ne_nil (d : Dict α) (key : String) (value : α) : d.set key value ≠ [] := by
  cases d with
  | nil => exact List.cons_ne_nil _ _
  | cons kv rest =>
    rw [set]
    split
    · exact List.cons_ne_nil _ _
    · exact List.cons_ne_nil _ _

theorem ofPairs_ne_nil {pairs : List (String × α)} (nonempty : pairs ≠ []) :
    ofPairs pairs ≠ [] := by
  cases pairs using List.reverseRecOn with
  | nil => exact absurd rfl nonempty
  | append_singleton pairs kv =>
    rw [ofPairs, List.foldl_append, List.foldl_cons, List.foldl_nil]
    exact set_ne_nil _ _ _

theorem nodup_keys_ofPairs (pairs : List (String × α)) :
    ((ofPairs pairs).map Prod.fst).Nodup := by
  induction pairs using List.reverseRecOn with
  | nil => exact List.nodup_nil
  | append_singleton pairs kv ih =>
    simp only [ofPairs, List.foldl_append, List.foldl_cons, List.foldl_nil]
    exact nodup_keys_set ih kv.1 kv.2

theorem get?_eq_some_of_mem {d : Dict α} (nodup : (d.map Prod.fst).Nodup) {key : String}
    {value : α} (member : (key, value) ∈ d) : d.get? key = some value := by
  induction d with
  | nil => cases member
  | cons kv rest ih =>
    obtain ⟨k, v⟩ := kv
    simp only [List.map_cons, List.nodup_cons] at nodup
    simp only [get?, List.lookup_cons]
    rcases List.mem_cons.mp member with head | tail
    · cases head
      simp
    · have other : key ≠ k := by
        intro h
        subst h
        exact nodup.1 (List.mem_map_of_mem (f := Prod.fst) tail)
      simp only [beq_eq_false_iff_ne.mpr other]
      exact ih nodup.2 tail

theorem mem_of_get?_eq_some {d : Dict α} {key : String} {value : α}
    (found : d.get? key = some value) : (key, value) ∈ d := by
  obtain ⟨l₁, l₂, rfl, -⟩ := List.lookup_eq_some_iff.mp found
  simp

/-- The values of a dictionary without repeated keys are the ones found under some key. -/
theorem mem_values_iff {d : Dict α} (nodup : (d.map Prod.fst).Nodup) {value : α} :
    value ∈ d.values ↔ ∃ key, d.get? key = some value := by
  refine ⟨?_, ?_⟩
  · intro member
    obtain ⟨⟨key, v⟩, inDict, rfl⟩ := List.mem_map.mp member
    exact ⟨key, get?_eq_some_of_mem nodup inDict⟩
  · intro h
    rcases h with ⟨key, found⟩
    exact List.mem_map.mpr ⟨_, mem_of_get?_eq_some found, rfl⟩

theorem get?_ofPairs_eq_none_iff {pairs : List (String × α)} {key : String} :
    (ofPairs pairs).get? key = none ↔ key ∉ pairs.map Prod.fst := by
  rw [get?_ofPairs, List.lookup_eq_none_iff]
  refine ⟨?_, ?_⟩
  · intro absent member
    obtain ⟨kv, inPairs, same⟩ := List.mem_map.mp member
    have differs := absent kv (List.mem_reverse.mpr inPairs)
    simp [same] at differs
  · intro absent kv member
    have inKeys := List.mem_map_of_mem (f := Prod.fst) (List.mem_reverse.mp member)
    have differs : key ≠ kv.1 := fun same => absent (same ▸ inKeys)
    simpa using differs

/-- A key is bound to the value of the last pair that has it. -/
theorem get?_ofPairs_eq_some_iff {pairs : List (String × α)} {key : String} {value : α} :
    (ofPairs pairs).get? key = some value ↔ ∃ before after,
      pairs = before ++ (key, value) :: after ∧ key ∉ after.map Prod.fst := by
  rw [get?_ofPairs, List.lookup_eq_some_iff]
  refine ⟨?_, ?_⟩
  · intro h
    rcases h with ⟨after, before, split, absent⟩
    refine ⟨before.reverse, after.reverse, ?_, fun member => ?_⟩
    · rw [← List.reverse_reverse pairs, split]
      simp
    · rcases List.mem_map.mp member with ⟨kv, inAfter, same⟩
      have differs := absent kv (List.mem_reverse.mp inAfter)
      simp [same] at differs
  · intro h
    rcases h with ⟨before, after, split, absent⟩
    refine ⟨after.reverse, before.reverse, ?_, fun kv member => ?_⟩
    · rw [split]
      simp
    · have inAfter := List.mem_map_of_mem (f := Prod.fst) (List.mem_reverse.mp member)
      have differs : key ≠ kv.1 := fun same => absent (same ▸ inAfter)
      simpa using differs

end Dict

/-! ## Floats -/

/-- The natural number with at most 53 significant bits that is nearest to `n`, and of the
two nearest ones the even one. -/
def roundHalfEven (n : ℕ) : ℕ :=
  let scale := 2 ^ (n.log2 - 52)
  let kept := n / scale
  let dropped := n % scale
  (if scale < 2 * dropped ∨ scale = 2 * dropped ∧ kept % 2 = 1 then kept + 1 else kept) * scale

/-- `float(n)`, unless it raises `OverflowError`. -/
@[irreducible] def floatOfInt? (n : ℤ) : Option ℚ :=
  let magnitude := roundHalfEven n.natAbs
  if magnitude < 2 ^ 1024 then some (n.sign * magnitude) else none

/-- A number of at most 53 bits is not rounded. -/
theorem roundHalfEven_of_lt {n : ℕ} (small : n < 2 ^ 53) : roundHalfEven n = n := by
  have bits : n.log2 ≤ 52 := by
    by_cases zero : n = 0
    · rw [zero]
      decide
    · exact Nat.lt_succ_iff.mp ((Nat.log2_lt zero).mpr small)
  have scale : 2 ^ (n.log2 - 52) = 1 := by rw [Nat.sub_eq_zero_of_le bits, pow_zero]
  unfold roundHalfEven
  dsimp only
  rw [scale, Nat.div_one, Nat.mod_one, Nat.mul_one]
  exact if_neg (by omega)

theorem floatOfInt?_of_lt {n : ℤ} (small : n.natAbs < 2 ^ 53) : floatOfInt? n = some (n : ℚ) := by
  have range {k : ℕ} (wide : 53 ≤ k) : n.natAbs < 2 ^ k :=
    small.trans_le (Nat.pow_le_pow_right (by decide) wide)
  have sign : (n.sign : ℚ) * (n.natAbs : ℚ) = n := by
    rw [← Int.cast_natCast, ← Int.cast_mul, Int.sign_mul_natAbs]
  unfold floatOfInt?
  dsimp only
  rw [roundHalfEven_of_lt small, if_pos (range (by decide)), sign]
example : floatOfInt? (2 ^ 53 + 1) = some (2 ^ 53) ∧ floatOfInt? (-10 ^ 400) = none := by
  decide +kernel

/-! ## JSON documents -/

/-- A JSON document as `json.loads` returns it. -/
inductive Json : Type
  | null
  | bool (b : Bool)
  | int (n : Int)
  | float (q : ℚ)
  | str (s : String)
  | arr (items : List Json)
  | obj (fields : List (String × Json))

/-- A JSON document that is a `dict`. -/
abbrev JsonObject : Type := Dict Json

namespace Json

mutual
/-- Structural equality test. -/
def beq : Json → Json → Bool
  | .null, .null => true
  | .bool a, .bool b => a == b
  | .int m, .int n => m == n
  | .float p, .float q => p == q
  | .str s, .str t => s == t
  | .arr xs, .arr ys => beqItems xs ys
  | .obj xs, .obj ys => beqFields xs ys
  | _, _ => false
termination_by structural a => a
def beqItems : List Json → List Json → Bool
  | [], [] => true
  | x :: xs, y :: ys => beq x y && beqItems xs ys
  | _, _ => false
termination_by structural a => a
def beqFields : List (String × Json) → List (String × Json) → Bool
  | [], [] => true
  | x :: xs, y :: ys => beqField x y && beqFields xs ys
  | _, _ => false
termination_by structural a => a
def beqField : String × Json → String × Json → Bool
  | (k, v), (l, w) => k == l && beq v w
termination_by structural a => a
end

mutual
theorem beq_iff : ∀ a b : Json, beq a b = true ↔ a = b
  | .null, b | .bool _, b | .int _, b | .float _, b | .str _, b => by cases b <;> simp [beq]
  | .arr xs, b => by cases b <;> simp [beq, beqItems_iff xs]
  | .obj xs, b => by cases b <;> simp [beq, beqFields_iff xs]
theorem beqItems_iff : ∀ xs ys : List Json, beqItems xs ys = true ↔ xs = ys
  | [], ys => by cases ys <;> simp [beqItems]
  | x :: xs, ys => by cases ys <;> simp [beqItems, beq_iff x, beqItems_iff xs]
theorem beqFields_iff : ∀ xs ys : List (String × Json), beqFields xs ys = true ↔ xs = ys
  | [], ys => by cases ys <;> simp [beqFields]
  | x :: xs, ys => by cases ys <;> simp [beqFields, beqField_iff x, beqFields_iff xs]
theorem beqField_iff : ∀ x y : String × Json, beqField x y = true ↔ x = y
  | (k, v), (l, w) => by simp [beqField, beq_iff v]
end

instance : DecidableEq Json := fun a b => decidable_of_iff _ (beq_iff a b)

/-- The number a JSON scalar compares as: `True == 1 == 1.0`. -/
def number? : Json → Option ℚ
  | .bool b => some (if b then 1 else 0)
  | .int n => some n
  | .float q => some q
  | _ => none

mutual
/-- Python's `==`: numbers by value, dictionaries regardless of order. -/
def pyEq : Json → Json → Bool
  | .null, .null => true
  | .bool a, w => number? w == some (if a then 1 else 0)
  | .int n, w => number? w == some (n : ℚ)
  | .float q, w => number? w == some q
  | .str s, .str t => s == t
  | .arr xs, .arr ys => pyEqItems xs ys
  | .obj xs, .obj ys => xs.length == ys.length && pyEqFields xs ys
  | _, _ => false
termination_by structural a => a
def pyEqItems : List Json → List Json → Bool
  | [], [] => true
  | x :: xs, y :: ys => pyEq x y && pyEqItems xs ys
  | _, _ => false
termination_by structural a => a
def pyEqFields : List (String × Json) → Dict Json → Bool
  | [], _ => true
  | x :: xs, ys => pyEqField x ys && pyEqFields xs ys
termination_by structural a => a
def pyEqField : String × Json → Dict Json → Bool
  | (k, v), ys => (ys.get? k).any fun w => pyEq v w
termination_by structural a => a
end

/-- `bool(value)`. -/
def truthy : Json → Bool
  | .null => false
  | .bool b => b
  | .int n => n ≠ 0
  | .float q => q ≠ 0
  | .str s => s ≠ ""
  | .arr items => !items.isEmpty
  | .obj fields => !fields.isEmpty

/-- Lists and dictionaries cannot be members of a set. -/
def hashable : Json → Bool
  | .arr _ | .obj _ => false
  | _ => true

/-- What iterating over the value yields, if it can be iterated over. -/
def iterate? : Json → Option (List Json)
  | .arr items => some items
  | .obj fields => some (fields.map fun kv => .str kv.1)
  | .str s => some (s.toList.map fun c => .str (String.ofList [c]))
  | _ => none

/-- The value, if it is a `dict`. -/
def dict? : Json → Option JsonObject
  | .obj fields => some fields
  | _ => none

@[simp] theorem dict?_eq_some_iff {v : Json} {fields : JsonObject} :
    v.dict? = some fields ↔ v = .obj fields := by
  cases v <;> simp [dict?]

/-! ### `json.dumps` -/

/-- Four hexadecimal digits. -/
def hex4 (n : Nat) : List Char :=
  [n / 4096 % 16, n / 256 % 16, n / 16 % 16, n % 16].map Nat.digitChar

/-- The escape of one character of a JSON string under `ensure_ascii`. -/
def escapeChar (c : Char) : List Char :=
  let n := c.toNat
  if c = '"' then ['\\', '"']
  else if c = '\\' then ['\\', '\\']
  else if n = 10 then ['\\', 'n']
  else if n = 13 then ['\\', 'r']
  else if n = 9 then ['\\', 't']
  else if n = 12 then ['\\', 'f']
  else if n = 8 then ['\\', 'b']
  else if 32 ≤ n ∧ n ≤ 126 then [c]
  else if n < 0x10000 then '\\' :: 'u' :: hex4 n
  else
    let m := n - 0x10000
    ('\\' :: 'u' :: hex4 (0xd800 + m / 1024)) ++ ('\\' :: 'u' :: hex4 (0xdc00 + m % 1024))

/-- A JSON string literal. -/
def quote (s : String) : List Char := '"' :: s.toList.flatMap escapeChar ++ ['"']

mutual
/-- The text of a document, keys sorted, `", "` and `": "` as separators. -/
def dumpsChars (floatRepr : ℚ → String) : Json → List Char
  | .null => "null".toList
  | .bool b => if b then "true".toList else "false".toList
  | .int n => (toString n).toList
  | .float q => (floatRepr q).toList
  | .str s => quote s
  | .arr items => '[' :: [',', ' '].intercalate (dumpsItems floatRepr items) ++ [']']
  | .obj fields =>
    let entries := (dumpsFields floatRepr fields).insertionSort fun x y => x.1 ≤ y.1
    '{' :: [',', ' '].intercalate (entries.map fun kv => quote kv.1 ++ ':' :: ' ' :: kv.2) ++ ['}']
termination_by structural j => j
def dumpsItems (floatRepr : ℚ → String) : List Json → List (List Char)
  | [] => []
  | x :: xs => dumpsChars floatRepr x :: dumpsItems floatRepr xs
termination_by structural j => j
def dumpsFields (floatRepr : ℚ → String) : List (String × Json) → List (String × List Char)
  | [] => []
  | x :: xs => dumpsField floatRepr x :: dumpsFields floatRepr xs
termination_by structural j => j
def dumpsField (floatRepr : ℚ → String) : String × Json → String × List Char
  | (k, v) => (k, dumpsChars floatRepr v)
termination_by structural j => j
end

/-- `json.dumps(value, sort_keys=True)`. -/
def dumps (floatRepr : ℚ → String) (value : Json) : String :=
  String.ofList (dumpsChars floatRepr value)

example : dumps (fun _ => "0.5") (.obj [("b", .arr [.null, .float (1 / 2)]), ("a", .str "é\n")]) =
    "\x7b\"a\": \"\\u00e9\\n\", \"b\": [null, 0.5]\x7d" := by
  decide +kernel

end Json

end Py
