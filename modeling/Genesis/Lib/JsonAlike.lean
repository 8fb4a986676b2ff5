import Mathlib
import Genesis.Lib.JsonText

/-!
# What a JSON text says

`json.dumps` writes two documents as one text exactly when they are `Alike`: the same
lists, the same dictionaries in any order, floats that print the same
(`dumps_eq_iff`).  The text is a single line (`Legible.newline_notMem`).
-/

namespace Py

/-- Texts of distinct keys with the same members are sorted into the same list. -/
theorem insertionSort_eq_of_perm {β : Type} {xs ys : List (String × β)} (perm : xs.Perm ys)
    (nodup : (xs.map Prod.fst).Nodup) :
    xs.insertionSort (fun x y => x.1 ≤ y.1) = ys.insertionSort fun x y => x.1 ≤ y.1 := by
  have sorted : ∀ zs : List (String × β),
      ((zs.insertionSort fun x y => x.1 ≤ y.1).map Prod.fst).Pairwise (· ≤ ·) := by
    intro zs
    rw [List.pairwise_map]
    exact List.pairwise_insertionSort _ _
  have both : (xs.insertionSort fun x y => x.1 ≤ y.1).Perm
      (ys.insertionSort fun x y => x.1 ≤ y.1) :=
    (List.perm_insertionSort _ _).trans (perm.trans (List.perm_insertionSort _ _).symm)
  have keys := (both.map Prod.fst).eq_of_pairwise' (sorted xs) (sorted ys)
  exact eq_of_perm_of_keys both keys
    (((List.perm_insertionSort _ xs).map Prod.fst).nodup_iff.mpr nodup)

namespace Json

/-! ## Documents that read alike -/

/-- No dictionary of the document has two values under one key. -/
inductive Keyed : Json → Prop
  | null : Keyed .null
  | bool (b : Bool) : Keyed (.bool b)
  | int (n : Int) : Keyed (.int n)
  | float (q : ℚ) : Keyed (.float q)
  | str (s : String) : Keyed (.str s)
  | arr {items : List Json} : (∀ item ∈ items, Keyed item) → Keyed (.arr items)
  | obj {fields : List (String × Json)} : (fields.map Prod.fst).Nodup →
    (∀ field ∈ fields, Keyed field.2) → Keyed (.obj fields)

/-- The same document up to the order of dictionaries and the printing of floats. -/
inductive Alike (floatRepr : ℚ → String) : Json → Json → Prop
  | null : Alike floatRepr .null .null
  | bool (b : Bool) : Alike floatRepr (.bool b) (.bool b)
  | int (n : Int) : Alike floatRepr (.int n) (.int n)
  | float {p q : ℚ} : floatRepr p = floatRepr q → Alike floatRepr (.float p) (.float q)
  | str (s : String) : Alike floatRepr (.str s) (.str s)
  | arr {items others : List Json} : items.length = others.length →
    (∀ (i : ℕ) item other, items[i]? = some item → others[i]? = some other →
      Alike floatRepr item other) → Alike floatRepr (.arr items) (.arr others)
  | obj {fields others : List (String × Json)} :
    (fields.map Prod.fst).Perm (others.map Prod.fst) →
    (∀ key value other, (key, value) ∈ fields → (key, other) ∈ others →
      Alike floatRepr value other) → Alike floatRepr (.obj fields) (.obj others)

/-- The text of a float is a number, and not that of an integer. -/
structure FloatText (text : List Char) : Prop extends NumberText text where
  fraction : ∃ c ∈ text, c ≠ '-' ∧ c.isDigit = false

variable {floatRepr : ℚ → String}

theorem Keyed.item {items : List Json} (keyed : Keyed (.arr items)) :
    ∀ item ∈ items, Keyed item := by
  cases keyed with
  | arr each => exact each

theorem Keyed.nodup {fields : List (String × Json)} (keyed : Keyed (.obj fields)) :
    (fields.map Prod.fst).Nodup := by
  cases keyed with
  | obj nodup _ => exact nodup

theorem Keyed.value {fields : List (String × Json)} (keyed : Keyed (.obj fields)) :
    ∀ field ∈ fields, Keyed field.2 := by
  cases keyed with
  | obj _ each => exact each

theorem Keyed.get {d : JsonObject} {key : String} {value : Json} (keyed : Keyed (.obj d))
    (found : d.get? key = some value) : Keyed value :=
  keyed.value _ (Dict.mem_of_get?_eq_some found)

mutual
/-- The test of the keys. -/
def isKeyed : Json → Bool
  | .arr items => isKeyedItems items
  | .obj fields => decide (fields.map Prod.fst).Nodup && isKeyedFields fields
  | _ => true
termination_by structural a => a
def isKeyedItems : List Json → Bool
  | [] => true
  | x :: xs => isKeyed x && isKeyedItems xs
termination_by structural a => a
def isKeyedFields : List (String × Json) → Bool
  | [] => true
  | x :: xs => isKeyedField x && isKeyedFields xs
termination_by structural a => a
def isKeyedField : String × Json → Bool
  | (_, v) => isKeyed v
termination_by structural a => a
end

mutual
theorem isKeyed_iff : ∀ a : Json, isKeyed a = true ↔ Keyed a
  | .null => ⟨fun _ => .null, fun _ => rfl⟩
  | .bool b => ⟨fun _ => .bool b, fun _ => rfl⟩
  | .int n => ⟨fun _ => .int n, fun _ => rfl⟩
  | .float q => ⟨fun _ => .float q, fun _ => rfl⟩
  | .str s => ⟨fun _ => .str s, fun _ => rfl⟩
  | .arr items => by
    rw [isKeyed, isKeyedItems_iff items]
    exact ⟨.arr, Keyed.item⟩
  | .obj fields => by
    rw [isKeyed, Bool.and_eq_true, decide_eq_true_eq, isKeyedFields_iff fields]
    exact ⟨fun both => .obj both.1 both.2, fun keyed => ⟨keyed.nodup, keyed.value⟩⟩
theorem isKeyedItems_iff : ∀ items : List Json,
    isKeyedItems items = true ↔ ∀ item ∈ items, Keyed item
  | [] => by simp [isKeyedItems]
  | x :: xs => by simp [isKeyedItems, isKeyed_iff x, isKeyedItems_iff xs]
theorem isKeyedFields_iff : ∀ fields : List (String × Json),
    isKeyedFields fields = true ↔ ∀ field ∈ fields, Keyed field.2
  | [] => by simp [isKeyedFields]
  | (k, v) :: xs => by
    rw [isKeyedFields, isKeyedField, Bool.and_eq_true, isKeyed_iff v, isKeyedFields_iff xs,
      List.forall_mem_cons]
end

instance : DecidablePred Keyed := fun a => decidable_of_iff _ (isKeyed_iff a)

theorem Keyed.legible (floats : ∀ q, FloatText (floatRepr q).toList) {a : Json} (keyed : Keyed a) :
    Legible floatRepr a := by
  induction keyed with
  | null => exact .null
  | bool b => exact .bool b
  | int n => exact .int n
  | float q => exact .float (floats q).toNumberText
  | str s => exact .str s
  | arr _ each => exact .arr each
  | obj _ _ each => exact .obj each

/-- The text of a float is not that of an integer. -/
theorem FloatText.ne_toString {text : List Char} (float : FloatText text) (n : Int) :
    text ≠ (toString n).toList := by
  rintro rfl
  obtain ⟨c, member, sign, digit⟩ := float.fraction
  rcases isDigit_of_mem_toString member with same | isDigit
  · exact sign same
  · rw [digit] at isDigit
    cases isDigit

/-- By induction on the first document: what one text says is alike. -/
theorem Keyed.alike_of_dumpsChars (floats : ∀ q, FloatText (floatRepr q).toList) {a : Json}
    (keyed : Keyed a) : ∀ {b : Json}, Keyed b →
      dumpsChars floatRepr a = dumpsChars floatRepr b → Alike floatRepr a b := by
  have kinds {a b : Json} (keyed : Keyed a) (keyed' : Keyed b)
      (same : dumpsChars floatRepr a = dumpsChars floatRepr b) : kind a = kind b :=
    (keyed.legible floats).kind_eq (keyed'.legible floats)
      (congrArg (fun text => text ++ []) same)
  induction keyed with
  | null =>
    intro b other same
    have kind_eq := kinds .null other same
    cases other with
    | null => exact .null
    | _ => cases kind_eq
  | bool v =>
    intro b other same
    have kind_eq := kinds (.bool v) other same
    cases other with
    | bool w =>
      cases v <;> cases w
      · exact .bool false
      · cases (List.cons.inj same).1
      · cases (List.cons.inj same).1
      · exact .bool true
    | _ => cases kind_eq
  | int n =>
    intro b other same
    have kind_eq := kinds (.int n) other same
    cases other with
    | int m =>
      rw [Int.repr_injective (String.toList_inj.mp same)]
      exact .int m
    | float q => exact absurd same.symm ((floats q).ne_toString n)
    | _ => cases kind_eq
  | float q =>
    intro b other same
    have kind_eq := kinds (.float q) other same
    cases other with
    | int m => exact absurd same ((floats q).ne_toString m)
    | float p => exact .float (String.toList_inj.mp same)
    | _ => cases kind_eq
  | str v =>
    intro b other same
    have kind_eq := kinds (.str v) other same
    cases other with
    | str w =>
      rw [str_of_dumpsChars same]
      exact .str w
    | _ => cases kind_eq
  | @arr items each ih =>
    intro b other same
    have kind_eq := kinds (.arr each) other same
    cases other with
    | @arr others each' =>
      have texts := texts_of_dumpsChars_arr ((Keyed.arr each).legible floats)
        ((Keyed.arr each').legible floats) same
      refine .arr (by simpa using congrArg List.length texts) fun i item other found found' => ?_
      have text := congrArg (·[i]?) texts
      simp only [List.getElem?_map, found, found', Option.map_some, Option.some.injEq] at text
      exact ih item (List.mem_of_getElem? found) (each' other (List.mem_of_getElem? found')) text
    | _ => cases kind_eq
  | @obj fields nodup each ih =>
    intro b other same
    have kind_eq := kinds (.obj nodup each) other same
    cases other with
    | @obj others nodup' each' =>
      have perm := entries_of_dumpsChars ((Keyed.obj nodup each).legible floats)
        ((Keyed.obj nodup' each').legible floats) same
      have keys := perm.map Prod.fst
      rw [List.map_map, List.map_map] at keys
      refine .obj keys fun key value other member member' => ?_
      obtain ⟨⟨key', other'⟩, found, text⟩ :=
        List.mem_map.mp (perm.subset (List.mem_map_of_mem member))
      obtain ⟨rfl, text⟩ := Prod.mk.inj text
      have unique : other' = other := by
        have first := Dict.get?_eq_some_of_mem nodup' found
        rw [Dict.get?_eq_some_of_mem nodup' member'] at first
        exact (Option.some.inj first).symm
      rw [unique] at text
      exact ih (key', value) member (each' (key', other) member') text.symm
    | _ => cases kind_eq

/-- By induction on the likeness: alike documents are written alike. -/
theorem Alike.dumpsChars_eq {a b : Json} (alike : Alike floatRepr a b) :
    Keyed a → Keyed b → dumpsChars floatRepr a = dumpsChars floatRepr b := by
  induction alike with
  | null | bool _ | int _ | str _ => exact fun _ _ => rfl
  | float same =>
    intro _ _
    rw [dumpsChars, dumpsChars, same]
  | @arr items others length _ ih =>
    intro keyed keyed'
    have texts : items.map (dumpsChars floatRepr) = others.map (dumpsChars floatRepr) := by
      refine List.ext_getElem (by simpa using length) fun i inItems inOthers => ?_
      rw [List.length_map] at inItems inOthers
      rw [List.getElem_map, List.getElem_map]
      exact ih i _ _ (List.getElem?_eq_getElem inItems) (List.getElem?_eq_getElem inOthers)
        (keyed.item _ (List.getElem_mem inItems)) (keyed'.item _ (List.getElem_mem inOthers))
    rw [dumpsChars_arr, dumpsChars_arr, texts]
  | @obj fields others keys _ ih =>
    intro keyed keyed'
    have nodup : ((fields.map fun field => (field.1, dumpsChars floatRepr field.2)).map
        Prod.fst).Nodup := by
      rw [List.map_map]
      exact keyed.nodup
    have subset : (fields.map fun field => (field.1, dumpsChars floatRepr field.2)) ⊆
        others.map fun field => (field.1, dumpsChars floatRepr field.2) := by
      intro entry member
      obtain ⟨⟨key, value⟩, inFields, rfl⟩ := List.mem_map.mp member
      obtain ⟨⟨key', other⟩, inOthers, rfl⟩ :=
        List.mem_map.mp (keys.subset (List.mem_map_of_mem inFields))
      refine List.mem_map.mpr ⟨(key', other), inOthers, ?_⟩
      rw [ih key' value other inFields inOthers (keyed.value _ inFields) (keyed'.value _ inOthers)]
    have perm : (fields.map fun field => (field.1, dumpsChars floatRepr field.2)).Perm
        (others.map fun field => (field.1, dumpsChars floatRepr field.2)) := by
      refine (List.subperm_of_subset (.of_map _ nodup) subset).perm_of_length_le ?_
      simpa using keys.length_eq.symm.le
    rw [dumpsChars_obj, dumpsChars_obj, entries, entries, insertionSort_eq_of_perm perm nodup]

/-- `json.dumps` writes one text for alike documents, and for no others. -/
theorem dumps_eq_iff (floats : ∀ q, FloatText (floatRepr q).toList) {a b : Json}
    (keyed : Keyed a) (keyed' : Keyed b) :
    dumps floatRepr a = dumps floatRepr b ↔ Alike floatRepr a b := by
  refine ⟨fun same => keyed.alike_of_dumpsChars floats keyed' (String.ofList_inj.mp same), ?_⟩
  intro alike
  rw [dumps, dumps, alike.dumpsChars_eq keyed keyed']

/-- The order of the keys does not matter. -/
theorem Keyed.alike_of_perm (floats : ∀ q, FloatText (floatRepr q).toList)
    {fields others : List (String × Json)} (keyed : Keyed (.obj fields))
    (perm : fields.Perm others) : Alike floatRepr (.obj fields) (.obj others) := by
  refine .obj (perm.map Prod.fst) fun key value other inside inside' => ?_
  have same := List.inj_on_of_nodup_map keyed.nodup inside (perm.mem_iff.mpr inside') rfl
  cases same
  have member := keyed.value _ inside
  exact (dumps_eq_iff floats member member).mp rfl

/-! ## One line -/

theorem newline_notMem_hex4 (n : ℕ) : '\n' ∉ hex4 n := by
  have digit : ∀ d < 16, Nat.digitChar d ≠ '\n' := by decide
  intro member
  rw [hex4] at member
  obtain ⟨d, inDigits, same⟩ := List.mem_map.mp member
  simp only [List.mem_cons, List.not_mem_nil, or_false] at inDigits
  refine digit d ?_ same
  rcases inDigits with rfl | rfl | rfl | rfl
  all_goals exact Nat.mod_lt _ (by decide)

theorem newline_notMem_escapeChar (c : Char) : '\n' ∉ escapeChar c := by
  unfold escapeChar
  dsimp only
  split
  next => decide
  split
  next => decide
  split
  next => decide
  split
  next => decide
  split
  next => decide
  split
  next => decide
  split
  next => decide
  split
  next noNewline _ _ _ _ _ =>
    rw [List.mem_singleton]
    rintro rfl
    exact noNewline rfl
  split
  next => simpa using newline_notMem_hex4 _
  next => simpa using ⟨newline_notMem_hex4 _, newline_notMem_hex4 _⟩

theorem newline_notMem_quote (s : String) : '\n' ∉ quote s := by
  rw [quote]
  simp [newline_notMem_escapeChar]

/-- The text of a document has no line break. -/
theorem Legible.newline_notMem {a : Json} (legible : Legible floatRepr a) :
    '\n' ∉ dumpsChars floatRepr a := by
  have joined {texts : List (List Char)} (clean : ∀ text ∈ texts, '\n' ∉ text) :
      '\n' ∉ [',', ' '].intercalate texts := by
    cases texts with
    | nil => simp
    | cons text texts =>
      rw [intercalate_cons, List.mem_append, not_or, List.mem_flatMap]
      refine ⟨clean text List.mem_cons_self, ?_⟩
      rintro ⟨other, member, inside⟩
      have absent := clean other (List.mem_cons_of_mem _ member)
      simp [absent] at inside
  induction legible with
  | null => exact (by decide : '\n' ∉ "null".toList)
  | bool b =>
    cases b with
    | true => exact (by decide : '\n' ∉ "true".toList)
    | false => exact (by decide : '\n' ∉ "false".toList)
  | int n => exact (numberText_toString n).line
  | float number => exact number.line
  | str s => exact newline_notMem_quote s
  | arr _ ih =>
    rw [dumpsChars_arr]
    simp [joined (List.forall_mem_map.mpr ih)]
  | @obj fields _ ih =>
    have each : ∀ text ∈ (entries floatRepr fields).map entryText, '\n' ∉ text := by
      rw [List.forall_mem_map]
      intro entry member
      obtain ⟨field, inFields, rfl⟩ := mem_entries_iff.mp member
      simp [entryText, newline_notMem_quote, ih field inFields]
    rw [dumpsChars_obj]
    simp [joined each]

end Json

end Py
