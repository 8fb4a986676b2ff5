import Genesis.Lib.Text

/-!
# Lines and fields of a text

`str.splitlines` with all of Python's line boundaries, and `str.partition` and
`str.split` at a single character.  Of two texts whose fields end at a separator
`append_separator_inj` says when they have the same fields, and of two with the last
of their separators in place `append_last_separator_inj` does.
-/

namespace Py

/-- The characters `str.splitlines` breaks a line at. -/
def isLineBreak (c : Char) : Bool :=
  let n := c.toNat
  (10 ≤ n && n ≤ 13) || (28 ≤ n && n ≤ 30) || n == 0x85 || n == 0x2028 || n == 0x2029

/-- The lines of a text, `line` being the one under way; `\r\n` is one break. -/
def linesFrom (line : List Char) : List Char → List (List Char)
  | [] => if line.isEmpty then [] else [line]
  | '\r' :: '\n' :: rest => line :: linesFrom [] rest
  | c :: rest =>
    if isLineBreak c then line :: linesFrom [] rest else linesFrom (line ++ [c]) rest

/-- `s.splitlines()`. -/
def splitlines (s : String) : List String := (linesFrom [] s.toList).map String.ofList

/-- What stands before and after the first `separator`, if there is one: `s.partition`. -/
def partition? (separator : Char) (s : String) : Option (String × String) :=
  match s.toList.span fun c => c ≠ separator with
  | (_, []) => none
  | (before, _ :: after) => some (String.ofList before, String.ofList after)

/-- No line contains a line break. -/
theorem not_isLineBreak_of_mem {line text : List Char} (clean : ∀ c ∈ line, isLineBreak c = false)
    {l : List Char} (member : l ∈ linesFrom line text) : ∀ c ∈ l, isLineBreak c = false := by
  fun_induction linesFrom line text with
  | case1 line empty => cases member
  | case2 line nonempty =>
    rw [List.mem_singleton.mp member]
    exact clean
  | case3 line rest ih =>
    rcases List.mem_cons.mp member with rfl | later
    · exact clean
    · exact ih (List.forall_mem_nil _) later
  | case4 line c rest _ breaks ih =>
    rcases List.mem_cons.mp member with rfl | later
    · exact clean
    · exact ih (List.forall_mem_nil _) later
  | case5 line c rest _ goes ih =>
    apply ih _ member
    intro d inLine
    rcases List.mem_append.mp inLine with old | new
    · exact clean d old
    · rw [List.mem_singleton.mp new]
      exact Bool.eq_false_iff.mpr goes

/-- A text that is not empty has a line. -/
theorem linesFrom_ne_nil {line text : List Char} (nonempty : line ≠ [] ∨ text ≠ []) :
    linesFrom line text ≠ [] := by
  fun_induction linesFrom line text with
  | case1 line empty =>
    rcases nonempty with started | impossible
    · exact absurd (List.isEmpty_iff.mp empty) started
    · exact absurd rfl impossible
  | case2 => exact List.cons_ne_nil _ _
  | case3 => exact List.cons_ne_nil _ _
  | case4 => exact List.cons_ne_nil _ _
  | case5 line c rest _ _ ih => exact ih (.inl (by simp))

/-- `s.split(separator)`. -/
def splitOn (separator : Char) (s : String) : List String :=
  (s.toList.splitOn separator).map String.ofList

/-- What has been joined with a character it does not contain is split there again. -/
theorem splitOn_join {separator : Char} {words : List String} (nonempty : words ≠ [])
    (clean : ∀ word ∈ words, separator ∉ word.toList) :
    splitOn separator (join (String.singleton separator) words) = words := by
  have absent : ∀ chars ∈ words.map String.toList, separator ∉ chars := by
    simpa only [List.forall_mem_map] using clean
  have some_word : words.map String.toList ≠ [] := by simpa using nonempty
  have chars : (String.singleton separator).toList = [separator] := by simp
  rw [splitOn, join, String.toList_ofList, chars, List.splitOn_intercalate _ absent some_word,
    List.map_map]
  simp

/-- The pieces tell the text. -/
theorem splitOn_inj {separator : Char} {s t : String}
    (same : splitOn separator s = splitOn separator t) : s = t := by
  have pieces := List.map_injective_iff.mpr (fun _ _ => String.ofList_inj.mp) same
  have joined := congrArg [separator].intercalate pieces
  rw [List.intercalate_splitOn, List.intercalate_splitOn] at joined
  exact String.toList_inj.mp joined

/-! ## Fields that end at a separator -/

/-- Fields with equally many separators in them end at the same one. -/
theorem append_separator_inj {α : Type*} [DecidableEq α] {separator : α}
    {field field' rest rest' : List α}
    (counts : field.count separator = field'.count separator) :
    field ++ separator :: rest = field' ++ separator :: rest' ↔ field = field' ∧ rest = rest' := by
  refine ⟨?_, ?_⟩
  · intro same
    induction field generalizing field' with
    | nil =>
      cases field' with
      | nil => exact ⟨rfl, (List.cons.inj same).2⟩
      | cons c field' =>
        -- the shorter field would end at a separator inside the longer one
        obtain ⟨rfl, -⟩ := List.cons.inj same
        rw [List.count_nil, List.count_cons_self] at counts
        exact absurd counts (Nat.succ_ne_zero _).symm
    | cons c field ih =>
      cases field' with
      | nil =>
        obtain ⟨rfl, -⟩ := List.cons.inj same
        rw [List.count_nil, List.count_cons_self] at counts
        exact absurd counts (Nat.succ_ne_zero _)
      | cons d field' =>
        obtain ⟨rfl, tails⟩ := List.cons.inj same
        have fewer : field.count separator = field'.count separator := by
          rw [List.count_cons, List.count_cons] at counts
          exact Nat.add_right_cancel counts
        obtain ⟨rfl, rests⟩ := ih fewer tails
        exact ⟨rfl, rests⟩
  · rintro ⟨rfl, rfl⟩
    rfl

/-- If the texts around two separators are the same together, they are the same each,
or one goes on beyond the separator of the other. -/
theorem append_separator_eq_iff {α : Type*} {separator : α} {field field' rest rest' : List α} :
    field ++ separator :: rest = field' ++ separator :: rest' ↔
      (field = field' ∧ rest = rest') ∨
      (∃ middle, field' = field ++ separator :: middle ∧ rest = middle ++ separator :: rest') ∨
      ∃ middle, field = field' ++ separator :: middle ∧ rest' = middle ++ separator :: rest := by
  refine ⟨?_, ?_⟩
  · intro same
    rcases List.append_eq_append_iff.mp same with ⟨more, longer, tails⟩ | ⟨more, longer, tails⟩
    · cases more with
      | nil => exact .inl ⟨by rw [longer, List.append_nil], (List.cons.inj tails).2⟩
      | cons c middle =>
        obtain ⟨rfl, tail⟩ := List.cons.inj tails
        exact .inr (.inl ⟨middle, longer, tail⟩)
    · cases more with
      | nil => exact .inl ⟨by rw [longer, List.append_nil], (List.cons.inj tails).2.symm⟩
      | cons c middle =>
        obtain ⟨rfl, tail⟩ := List.cons.inj tails
        exact .inr (.inr ⟨middle, longer, tail⟩)
  · rintro (⟨rfl, rfl⟩ | ⟨middle, rfl, rfl⟩ | ⟨middle, rfl, rfl⟩)
    · rfl
    · rw [List.append_assoc, List.cons_append]
    · rw [List.append_assoc, List.cons_append]

/-- Texts around the last of their separators are the same together if they are the
same each. -/
theorem append_last_separator_inj {α : Type*} {separator : α} {field field' rest rest' : List α}
    (absent : separator ∉ rest) (absent' : separator ∉ rest') :
    field ++ separator :: rest = field' ++ separator :: rest' ↔ field = field' ∧ rest = rest' := by
  refine ⟨?_, ?_⟩
  · intro same
    rcases append_separator_eq_iff.mp same with same | ⟨middle, -, behind⟩ | ⟨middle, -, behind⟩
    · exact same
    · rw [behind] at absent
      exact absurd (List.mem_append_right _ List.mem_cons_self) absent
    · rw [behind] at absent'
      exact absurd (List.mem_append_right _ List.mem_cons_self) absent'
  · rintro ⟨rfl, rfl⟩
    rfl

/-- No number in decimal contains a character that is not a digit. -/
theorem not_mem_toDigits {separator : Char} (noDigit : separator.isDigit = false) (n : ℕ) :
    separator ∉ Nat.toDigits 10 n := by
  intro member
  have digit := Nat.isDigit_of_mem_toDigits (by decide) (by decide) member
  rw [noDigit] at digit
  cases digit

/-- A number in decimal ends at any character that is not a digit. -/
theorem decimal_append_inj {separator : Char} (noDigit : separator.isDigit = false) {i j : ℕ}
    {rest rest' : List Char} :
    Nat.toDigits 10 i ++ separator :: rest = Nat.toDigits 10 j ++ separator :: rest' ↔
      i = j ∧ rest = rest' := by
  have absent : ∀ n, (Nat.toDigits 10 n).count separator = 0 :=
    fun n => List.count_eq_zero_of_not_mem (not_mem_toDigits noDigit n)
  rw [append_separator_inj ((absent i).trans (absent j).symm)]
  refine and_congr_left fun _ => ⟨?_, fun same => same ▸ rfl⟩
  intro digits
  have values := congrArg (Nat.ofDigitChars 10 · 0) digits
  simpa only [Nat.ofDigitChars_ten_toDigits] using values

example : splitlines "a\r\nb\n\nc\x0bd\n" = ["a", "b", "", "c", "d"] ∧
    partition? ':' "Owner: Finance: Q1" = some ("Owner", " Finance: Q1") ∧
    partition? ':' "Owner" = none := by
  decide +kernel

end Py
