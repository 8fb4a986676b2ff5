import Genesis.Lib.Python

/-!
# JSON texts tell documents apart

What `json.dumps` writes ends where it ends: two such texts are never the beginnings
of one text, up to a place where a document may end, unless they are the same
(`Legible.discerned`).  So the text of a list tells the texts of its items, and that
of a dictionary the texts of its values by key (`texts_of_dumpsChars_arr`,
`entries_inj`).  All that is asked of the text of a float is `NumberText`.
-/

namespace Py

/-! ## Texts that are not confused -/

/-- A document may end before this text. -/
def Ends (text : List Char) : Prop := ∀ c ∈ text.head?, c = ',' ∨ c = ']' ∨ c = '}'

theorem ends_cons {c : Char} {text : List Char} (closes : c = ',' ∨ c = ']' ∨ c = '}') :
    Ends (c :: text) := by
  intro d first
  cases first
  exact closes

/-- The two texts are the same if they begin one text before an end of a document. -/
def Discerned (x y : List Char) : Prop := ∀ s t, Ends s → Ends t → x ++ s = y ++ t → x = y

namespace Discerned

variable {x y s t : List Char}

theorem rest (discerned : Discerned x y) (ends : Ends s) (ends' : Ends t)
    (same : x ++ s = y ++ t) : x = y ∧ s = t := by
  have first := discerned s t ends ends' same
  rw [first] at same
  exact ⟨first, List.append_cancel_left same⟩

/-- Of texts whose characters end no document, none goes on beyond the other. -/
theorem of_inside (inside : ∀ c ∈ x, c ≠ ',' ∧ c ≠ ']' ∧ c ≠ '}')
    (inside' : ∀ c ∈ y, c ≠ ',' ∧ c ≠ ']' ∧ c ≠ '}') : Discerned x y := by
  have longer {x y more s t : List Char} (inside : ∀ c ∈ y, c ≠ ',' ∧ c ≠ ']' ∧ c ≠ '}')
      (ends : Ends s) (whole : y = x ++ more) (behind : s = more ++ t) : x = y := by
    cases more with
    | nil => rw [whole, List.append_nil]
    | cons c more =>
      rw [whole] at inside
      rw [behind] at ends
      obtain ⟨comma, bracket, brace⟩ :=
        inside c (List.mem_append_right _ List.mem_cons_self)
      rcases ends c rfl with rfl | rfl | rfl
      · exact absurd rfl comma
      · exact absurd rfl bracket
      · exact absurd rfl brace
  intro s t ends ends' same
  rcases List.append_eq_append_iff.mp same with ⟨more, whole, behind⟩ | ⟨more, whole, behind⟩
  · exact longer inside' ends whole behind
  · exact (longer inside ends' whole behind).symm

end Discerned

/-! ## Dictionaries with the same keys -/

theorem eq_of_perm_of_keys {κ β : Type} {xs ys : List (κ × β)} (perm : xs.Perm ys)
    (keys : xs.map Prod.fst = ys.map Prod.fst) (nodup : (xs.map Prod.fst).Nodup) : xs = ys := by
  induction xs generalizing ys with
  | nil => exact perm.nil_eq
  | cons x xs ih =>
    cases ys with
    | nil => exact perm.eq_nil
    | cons y ys =>
      rw [List.map_cons, List.map_cons, List.cons.injEq] at keys
      rw [List.map_cons, List.nodup_cons] at nodup
      rcases List.mem_cons.mp (perm.subset List.mem_cons_self) with first | behind
      · subst first
        rw [ih perm.cons_inv keys.2 nodup.2]
      · have again : x.1 ∈ xs.map Prod.fst := by
          rw [keys.2]
          exact List.mem_map_of_mem behind
        exact absurd again nodup.1

/-! ## Lists of texts -/

section

variable {xs ys : List (List Char)} {closing : Char}

theorem intercalate_cons (x : List Char) (xs : List (List Char)) :
    [',', ' '].intercalate (x :: xs) = x ++ xs.flatMap fun y => ',' :: ' ' :: y := by
  induction xs generalizing x with
  | nil => simp
  | cons y xs ih =>
    rw [List.intercalate_cons_cons, ih, List.flatMap_cons]
    simp

theorem ends_separated (closes : Ends [closing]) (s : List Char) :
    Ends ((xs.flatMap fun y => ',' :: ' ' :: y) ++ closing :: s) := by
  cases xs with
  | nil => exact ends_cons (closes closing rfl)
  | cons x xs => exact ends_cons (.inl rfl)

/-- Texts behind separators are told apart up to the closing character. -/
theorem separated_inj (closes : Ends [closing]) (comma : closing ≠ ',')
    (each : ∀ x ∈ xs, ∀ y ∈ ys, Discerned x y) {s t : List Char}
    (same : (xs.flatMap fun y => ',' :: ' ' :: y) ++ closing :: s =
      (ys.flatMap fun y => ',' :: ' ' :: y) ++ closing :: t) : xs = ys := by
  induction xs generalizing ys with
  | nil =>
    cases ys with
    | nil => rfl
    | cons y ys => exact absurd (List.cons.inj same).1 comma
  | cons x xs ih =>
    cases ys with
    | nil => exact absurd (List.cons.inj same).1.symm comma
    | cons y ys =>
      simp only [List.flatMap_cons, List.cons_append, List.append_assoc, List.cons.injEq,
        true_and] at same
      obtain ⟨first, others⟩ := (each x List.mem_cons_self y List.mem_cons_self).rest
        (ends_separated closes s) (ends_separated closes t) same
      have behind : ∀ x ∈ xs, ∀ y ∈ ys, Discerned x y :=
        fun x inXs y inYs => each x (List.mem_cons_of_mem _ inXs) y (List.mem_cons_of_mem _ inYs)
      rw [first, ih behind others]

/-- A joined list of texts tells which texts were joined. -/
theorem intercalate_inj (closes : Ends [closing]) (comma : closing ≠ ',')
    (each : ∀ x ∈ xs, ∀ y ∈ ys, Discerned x y)
    (starts : ∀ x ∈ xs ++ ys, ∃ c rest, x = c :: rest ∧ c ≠ closing) {s t : List Char}
    (same : [',', ' '].intercalate xs ++ closing :: s =
      [',', ' '].intercalate ys ++ closing :: t) : xs = ys := by
  cases xs with
  | nil =>
    cases ys with
    | nil => rfl
    | cons y ys =>
      obtain ⟨c, rest, rfl, ne⟩ := starts y List.mem_cons_self
      rw [intercalate_cons] at same
      exact absurd (List.cons.inj same).1.symm ne
  | cons x xs =>
    cases ys with
    | nil =>
      obtain ⟨c, rest, rfl, ne⟩ := starts x (List.mem_append_left _ List.mem_cons_self)
      rw [intercalate_cons] at same
      exact absurd (List.cons.inj same).1 ne
    | cons y ys =>
      rw [intercalate_cons, intercalate_cons, List.append_assoc, List.append_assoc] at same
      obtain ⟨first, others⟩ := (each x List.mem_cons_self y List.mem_cons_self).rest
        (ends_separated closes s) (ends_separated closes t) same
      have behind : ∀ x ∈ xs, ∀ y ∈ ys, Discerned x y :=
        fun x inXs y inYs => each x (List.mem_cons_of_mem _ inXs) y (List.mem_cons_of_mem _ inYs)
      rw [first, separated_inj closes comma behind others]

end

namespace Json

/-! ## Strings -/

def hexValue (c : Char) : ℕ := if c.isDigit then c.toNat - 48 else c.toNat - 87

theorem hexValue_digitChar : ∀ d < 16, hexValue (Nat.digitChar d) = d := by decide

/-- The number four hexadecimal digits stand for, and what follows them. -/
def readHex4 : List Char → Option (ℕ × List Char)
  | a :: b :: c :: d :: rest =>
    some (((hexValue a * 16 + hexValue b) * 16 + hexValue c) * 16 + hexValue d, rest)
  | _ => none

theorem readHex4_hex4 {n : ℕ} (bounded : n < 0x10000) (rest : List Char) :
    readHex4 (hex4 n ++ rest) = some (n, rest) := by
  have digit : ∀ k, hexValue (Nat.digitChar (k % 16)) = k % 16 :=
    fun k => hexValue_digitChar _ (Nat.mod_lt _ (by decide))
  simp only [hex4, List.map_cons, List.map_nil, List.cons_append, List.nil_append, readHex4, digit]
  have value : ((n / 4096 % 16 * 16 + n / 256 % 16) * 16 + n / 16 % 16) * 16 + n % 16 = n := by
    omega
  rw [value]

/-- The character of an escape sequence after its `u`. -/
def readUnicode (text : List Char) : Option (Char × List Char) :=
  (readHex4 text).bind fun high =>
    if 0xd800 ≤ high.1 ∧ high.1 < 0xdc00 then
      (readHex4 (high.2.drop 2)).map fun low =>
        (Char.ofNat (0x10000 + (high.1 - 0xd800) * 1024 + (low.1 - 0xdc00)), low.2)
    else some (Char.ofNat high.1, high.2)

/-- The character of a one-letter escape sequence. -/
def controlOf (letter : Char) : Char :=
  if letter = 'n' then Char.ofNat 10
  else if letter = 'r' then Char.ofNat 13
  else if letter = 't' then Char.ofNat 9
  else if letter = 'f' then Char.ofNat 12
  else if letter = 'b' then Char.ofNat 8
  else letter

def readEscape : List Char → Option (Char × List Char)
  | [] => none
  | letter :: rest => if letter = 'u' then readUnicode rest else some (controlOf letter, rest)

/-- The first character of the inside of a string literal, if the literal goes on. -/
def unescape : List Char → Option (Char × List Char)
  | [] => none
  | c :: rest =>
    if c = '"' then none else if c = '\\' then readEscape rest else some (c, rest)

theorem readUnicode_hex4 {c : Char} (bounded : c.toNat < 0x10000) (rest : List Char) :
    readUnicode (hex4 c.toNat ++ rest) = some (c, rest) := by
  have noSurrogate : ¬ (0xd800 ≤ c.toNat ∧ c.toNat < 0xdc00) := by
    rcases c.valid with below | above
    · intro h
      exact absurd below (Nat.not_lt.mpr h.1)
    · intro h
      have beyond : 0xdfff < c.toNat := above.1
      omega
  rw [readUnicode, readHex4_hex4 bounded, Option.bind_some, if_neg noSurrogate, Char.ofNat_toNat]

theorem readUnicode_pair {c : Char} (large : 0x10000 ≤ c.toNat) (rest : List Char) :
    readUnicode (hex4 (0xd800 + (c.toNat - 0x10000) / 1024) ++
      '\\' :: 'u' :: (hex4 (0xdc00 + (c.toNat - 0x10000) % 1024) ++ rest)) = some (c, rest) := by
  have most : c.toNat < 0x110000 := by
    rcases c.valid with below | above
    · exact lt_trans below (by decide)
    · exact above.2
  have high : 0xd800 + (c.toNat - 0x10000) / 1024 < 0x10000 := by omega
  have low : 0xdc00 + (c.toNat - 0x10000) % 1024 < 0x10000 := by omega
  have surrogate : 0xd800 ≤ 0xd800 + (c.toNat - 0x10000) / 1024 ∧
      0xd800 + (c.toNat - 0x10000) / 1024 < 0xdc00 := by omega
  have value : 0x10000 + (0xd800 + (c.toNat - 0x10000) / 1024 - 0xd800) * 1024 +
      (0xdc00 + (c.toNat - 0x10000) % 1024 - 0xdc00) = c.toNat := by omega
  rw [readUnicode, readHex4_hex4 high, Option.bind_some, if_pos surrogate]
  simp only [List.drop_succ_cons, List.drop_zero]
  rw [readHex4_hex4 low, Option.map_some, value, Char.ofNat_toNat]

/-- An escaped character is read back. -/
theorem unescape_escapeChar (c : Char) (rest : List Char) :
    unescape (escapeChar c ++ rest) = some (c, rest) := by
  have control : ∀ n, c.toNat = n → Char.ofNat n = c := by
    intro n same
    rw [← same, Char.ofNat_toNat]
  unfold escapeChar
  dsimp only
  split
  next quote => rw [quote]; rfl
  split
  next slash => rw [slash]; rfl
  split
  next n => exact congrArg (fun d => some (d, rest)) (control _ n)
  split
  next n => exact congrArg (fun d => some (d, rest)) (control _ n)
  split
  next n => exact congrArg (fun d => some (d, rest)) (control _ n)
  split
  next n => exact congrArg (fun d => some (d, rest)) (control _ n)
  split
  next n => exact congrArg (fun d => some (d, rest)) (control _ n)
  split
  next noQuote noSlash _ _ _ _ _ _ =>
    rw [List.cons_append, List.nil_append, unescape, if_neg noQuote, if_neg noSlash]
  split
  next bounded => exact readUnicode_hex4 bounded rest
  next large =>
    have pair := readUnicode_pair (Nat.not_lt.mp large) rest
    simpa [unescape, readEscape] using pair

theorem escaped_inj {s t r r' : List Char}
    (same : s.flatMap escapeChar ++ '"' :: r = t.flatMap escapeChar ++ '"' :: r') : s = t := by
  have ends : ∀ r, unescape ('"' :: r) = none := fun r => rfl
  induction s generalizing t with
  | nil =>
    cases t with
    | nil => rfl
    | cons d t =>
      have reads := congrArg unescape same
      rw [List.flatMap_nil, List.nil_append, ends, List.flatMap_cons, List.append_assoc,
        unescape_escapeChar] at reads
      cases reads
  | cons c s ih =>
    have reads := congrArg unescape same
    rw [List.flatMap_cons, List.append_assoc, unescape_escapeChar] at reads
    cases t with
    | nil =>
      rw [List.flatMap_nil, List.nil_append, ends] at reads
      cases reads
    | cons d t =>
      rw [List.flatMap_cons, List.append_assoc, unescape_escapeChar, Option.some.injEq,
        Prod.mk.injEq] at reads
      rw [reads.1, ih reads.2]

theorem quote_inj {s t : String} {r r' : List Char} (same : quote s ++ r = quote t ++ r') :
    s = t := by
  simp only [quote, List.cons_append, List.append_assoc, List.nil_append, List.cons.injEq,
    true_and] at same
  exact String.toList_inj.mp (escaped_inj same)

theorem discerned_quote (s t : String) : Discerned (quote s) (quote t) :=
  fun _ _ _ _ same => congrArg quote (quote_inj same)

/-! ## Numbers -/

/-- A number starts with a sign or a digit and ends before a comma, a bracket or the end
of the line. -/
structure NumberText (text : List Char) : Prop where
  starts : ∃ c rest, text = c :: rest ∧ (c = '-' ∨ c.isDigit = true)
  inside : ∀ c ∈ text, c ≠ ',' ∧ c ≠ ']' ∧ c ≠ '}'
  line : '\n' ∉ text

theorem isDigit_of_mem_toString {n : Int} {c : Char} (member : c ∈ (toString n).toList) :
    c = '-' ∨ c.isDigit = true := by
  rw [Int.toString_eq_repr] at member
  cases n with
  | ofNat n =>
    rw [Int.repr, Nat.toList_repr] at member
    exact .inr (Nat.isDigit_of_mem_toDigits (by decide) (by decide) member)
  | negSucc n =>
    rw [Int.repr, String.toList_append, Nat.toList_repr] at member
    rcases List.mem_append.mp member with sign | digit
    · exact .inl (List.mem_singleton.mp sign)
    · exact .inr (Nat.isDigit_of_mem_toDigits (by decide) (by decide) digit)

theorem numberText_toString (n : Int) : NumberText (toString n).toList := by
  have absent {d : Char} (sign : d ≠ '-') (digit : d.isDigit = false) :
      d ∉ (toString n).toList := by
    intro member
    rcases isDigit_of_mem_toString member with same | isDigit
    · exact sign same
    · rw [digit] at isDigit
      cases isDigit
  refine ⟨?_, ?_, absent (by decide) (by decide)⟩
  · cases text : (toString n).toList with
    | nil =>
      have empty := String.toList_eq_nil_iff.mp text
      rw [Int.toString_eq_repr] at empty
      cases n with
      | ofNat n => exact absurd empty Nat.repr_ne_empty
      | negSucc n =>
        rw [Int.repr, String.append_eq_empty_iff] at empty
        exact absurd empty.2 Nat.repr_ne_empty
    | cons c rest =>
      have first : c ∈ (toString n).toList := by
        rw [text]
        exact List.mem_cons_self
      exact ⟨c, rest, rfl, isDigit_of_mem_toString first⟩
  · intro c member
    refine ⟨?_, ?_, ?_⟩
    · rintro rfl
      exact absent (by decide) (by decide) member
    · rintro rfl
      exact absent (by decide) (by decide) member
    · rintro rfl
      exact absent (by decide) (by decide) member

/-! ## Documents -/

/-- A document of strings, lists and dictionaries. -/
inductive Textual : Json → Prop
  | str (s : String) : Textual (.str s)
  | arr {items : List Json} : (∀ item ∈ items, Textual item) → Textual (.arr items)
  | obj {fields : List (String × Json)} : (∀ field ∈ fields, Textual field.2) →
    Textual (.obj fields)

theorem Textual.strs (items : List String) : Textual (.arr (items.map .str)) := by
  refine .arr fun item member => ?_
  obtain ⟨s, -, rfl⟩ := List.mem_map.mp member
  exact .str s

/-- A document whose floats are printed as numbers. -/
inductive Legible (floatRepr : ℚ → String) : Json → Prop
  | null : Legible floatRepr .null
  | bool (b : Bool) : Legible floatRepr (.bool b)
  | int (n : Int) : Legible floatRepr (.int n)
  | float {q : ℚ} : NumberText (floatRepr q).toList → Legible floatRepr (.float q)
  | str (s : String) : Legible floatRepr (.str s)
  | arr {items : List Json} : (∀ item ∈ items, Legible floatRepr item) →
    Legible floatRepr (.arr items)
  | obj {fields : List (String × Json)} : (∀ field ∈ fields, Legible floatRepr field.2) →
    Legible floatRepr (.obj fields)

variable {floatRepr : ℚ → String}

theorem Textual.legible {a : Json} (textual : Textual a) : Legible floatRepr a := by
  induction textual with
  | str s => exact .str s
  | arr _ each => exact .arr each
  | obj _ each => exact .obj each

theorem Legible.item {items : List Json} (legible : Legible floatRepr (.arr items)) :
    ∀ item ∈ items, Legible floatRepr item := by
  cases legible with
  | arr each => exact each

theorem Legible.value {fields : List (String × Json)} (legible : Legible floatRepr (.obj fields)) :
    ∀ field ∈ fields, Legible floatRepr field.2 := by
  cases legible with
  | obj each => exact each

theorem dumpsItems_eq (items : List Json) :
    dumpsItems floatRepr items = items.map (dumpsChars floatRepr) := by
  induction items with
  | nil => rfl
  | cons item items ih => rw [dumpsItems, ih, List.map_cons]

/-- The texts of the values, by key. -/
def entries (floatRepr : ℚ → String) (fields : List (String × Json)) :
    List (String × List Char) :=
  (fields.map fun field => (field.1, dumpsChars floatRepr field.2)).insertionSort
    fun x y => x.1 ≤ y.1

theorem dumpsFields_eq (fields : List (String × Json)) : dumpsFields floatRepr fields =
    fields.map fun field => (field.1, dumpsChars floatRepr field.2) := by
  induction fields with
  | nil => rfl
  | cons field fields ih =>
    obtain ⟨key, value⟩ := field
    rw [dumpsFields, ih, List.map_cons, dumpsField]

def entryText (entry : String × List Char) : List Char := quote entry.1 ++ ':' :: ' ' :: entry.2

theorem dumpsChars_arr (items : List Json) : dumpsChars floatRepr (.arr items) =
    '[' :: ([',', ' '].intercalate (items.map (dumpsChars floatRepr)) ++ [']']) := by
  rw [dumpsChars, dumpsItems_eq]
  rfl

theorem dumpsChars_obj (fields : List (String × Json)) : dumpsChars floatRepr (.obj fields) =
    '{' :: ([',', ' '].intercalate ((entries floatRepr fields).map entryText) ++ ['}']) := by
  rw [dumpsChars, dumpsFields_eq]
  rfl

theorem mem_entries_iff {fields : List (String × Json)} {entry : String × List Char} :
    entry ∈ entries floatRepr fields ↔
      ∃ field ∈ fields, (field.1, dumpsChars floatRepr field.2) = entry := by
  rw [entries, (List.perm_insertionSort _ _).mem_iff, List.mem_map]

/-! ## How documents start -/

/-- The kind of documents that start with this character. -/
def kindOf (c : Char) : Char := if c.isDigit then '-' else if c = 'f' then 't' else c

/-- The kind of a document. -/
def kind : Json → Char
  | .null => 'n'
  | .bool _ => 't'
  | .int _ | .float _ => '-'
  | .str _ => '"'
  | .arr _ => '['
  | .obj _ => '{'

theorem NumberText.exists_kindOf {text : List Char} (number : NumberText text) :
    ∃ c rest, text = c :: rest ∧ kindOf c = '-' := by
  obtain ⟨c, rest, text_eq, sign | digit⟩ := number.starts
  · exact ⟨c, rest, text_eq, by rw [sign]; rfl⟩
  · exact ⟨c, rest, text_eq, if_pos digit⟩

/-- The first character of a document tells its kind. -/
theorem Legible.starts {a : Json} (legible : Legible floatRepr a) :
    ∃ c rest, dumpsChars floatRepr a = c :: rest ∧ kindOf c = kind a := by
  cases legible with
  | null => exact ⟨'n', _, rfl, rfl⟩
  | bool b =>
    cases b with
    | true => exact ⟨'t', _, rfl, rfl⟩
    | false => exact ⟨'f', _, rfl, rfl⟩
  | int n => exact (numberText_toString n).exists_kindOf
  | float number => exact number.exists_kindOf
  | str s => exact ⟨'"', _, rfl, rfl⟩
  | arr _ => exact ⟨'[', _, dumpsChars_arr _, rfl⟩
  | obj _ => exact ⟨'{', _, dumpsChars_obj _, rfl⟩

theorem Legible.kind_eq {a b : Json} (legible : Legible floatRepr a)
    (legible' : Legible floatRepr b) {s t : List Char}
    (same : dumpsChars floatRepr a ++ s = dumpsChars floatRepr b ++ t) : kind a = kind b := by
  obtain ⟨c, rest, starts, kind_eq⟩ := legible.starts
  obtain ⟨c', rest', starts', kind_eq'⟩ := legible'.starts
  rw [starts, starts'] at same
  rw [← kind_eq, ← kind_eq', (List.cons.inj same).1]

/-! ## What a text tells -/

/-- What is told apart item by item is told apart as a list. -/
theorem items_inj {items others : List Json} (legible : ∀ item ∈ items, Legible floatRepr item)
    (legible' : ∀ item ∈ others, Legible floatRepr item)
    (each : ∀ item ∈ items, ∀ other ∈ others,
      Discerned (dumpsChars floatRepr item) (dumpsChars floatRepr other)) {s t : List Char}
    (same : dumpsChars floatRepr (.arr items) ++ s = dumpsChars floatRepr (.arr others) ++ t) :
    items.map (dumpsChars floatRepr) = others.map (dumpsChars floatRepr) := by
  have starts {a : Json} (legible : Legible floatRepr a) :
      ∃ c rest, dumpsChars floatRepr a = c :: rest ∧ c ≠ ']' := by
    obtain ⟨c, rest, starts, kind_eq⟩ := legible.starts
    refine ⟨c, rest, starts, ?_⟩
    rintro rfl
    cases a <;> cases kind_eq
  rw [dumpsChars_arr, dumpsChars_arr, List.cons_append, List.cons_append, List.append_assoc,
    List.append_assoc] at same
  refine intercalate_inj (ends_cons (.inr (.inl rfl))) (by decide) ?_ ?_ (List.cons.inj same).2
  · intro x inItems y inOthers
    obtain ⟨item, member, rfl⟩ := List.mem_map.mp inItems
    obtain ⟨other, member', rfl⟩ := List.mem_map.mp inOthers
    exact each item member other member'
  · intro x member
    rcases List.mem_append.mp member with inItems | inOthers
    · obtain ⟨item, inside, rfl⟩ := List.mem_map.mp inItems
      exact starts (legible item inside)
    · obtain ⟨other, inside, rfl⟩ := List.mem_map.mp inOthers
      exact starts (legible' other inside)

theorem entryText_inj {entry other : String × List Char}
    (same : entryText entry = entryText other) : entry = other := by
  rw [entryText, entryText] at same
  have key := quote_inj same
  rw [key] at same
  have behind := (List.cons.inj (List.append_cancel_left same)).2
  exact Prod.ext key (List.cons.inj behind).2

theorem discerned_entryText {entry other : String × List Char}
    (values : Discerned entry.2 other.2) : Discerned (entryText entry) (entryText other) := by
  intro s t ends ends' same
  rw [entryText, entryText, List.append_assoc, List.append_assoc] at same
  have key := quote_inj same
  rw [key, List.append_cancel_left_eq, List.cons_append, List.cons_append, List.cons_append,
    List.cons_append, List.cons.injEq, List.cons.injEq] at same
  rw [entryText, entryText, key, values s t ends ends' same.2.2]

/-- What is told apart value by value is told apart as a dictionary. -/
theorem entries_inj {fields others : List (String × Json)}
    (each : ∀ field ∈ fields, ∀ other ∈ others,
      Discerned (dumpsChars floatRepr field.2) (dumpsChars floatRepr other.2)) {s t : List Char}
    (same : dumpsChars floatRepr (.obj fields) ++ s = dumpsChars floatRepr (.obj others) ++ t) :
    entries floatRepr fields = entries floatRepr others := by
  rw [dumpsChars_obj, dumpsChars_obj, List.cons_append, List.cons_append, List.append_assoc,
    List.append_assoc] at same
  have texts : (entries floatRepr fields).map entryText =
      (entries floatRepr others).map entryText := by
    refine intercalate_inj (ends_cons (.inr (.inr rfl))) (by decide) ?_ ?_ (List.cons.inj same).2
    · intro x inFields y inOthers
      obtain ⟨entry, member, rfl⟩ := List.mem_map.mp inFields
      obtain ⟨other, member', rfl⟩ := List.mem_map.mp inOthers
      obtain ⟨field, inside, rfl⟩ := mem_entries_iff.mp member
      obtain ⟨field', inside', rfl⟩ := mem_entries_iff.mp member'
      exact discerned_entryText (each field inside field' inside')
    · intro x member
      rw [← List.map_append] at member
      obtain ⟨entry, -, rfl⟩ := List.mem_map.mp member
      rw [entryText, quote, List.cons_append, List.cons_append]
      exact ⟨_, _, rfl, by decide⟩
  exact List.map_injective_iff.mpr (fun _ _ => entryText_inj) texts

/-- By induction on the first document: no text of a document begins another. -/
theorem Legible.discerned {a : Json} (legible : Legible floatRepr a) :
    ∀ {b : Json}, Legible floatRepr b →
      Discerned (dumpsChars floatRepr a) (dumpsChars floatRepr b) := by
  induction legible with
  | null =>
    intro b other s t _ _ same
    have kinds := Legible.null.kind_eq other same
    cases other with
    | null => rfl
    | _ => cases kinds
  | bool v =>
    intro b other s t _ _ same
    have kinds := (Legible.bool v).kind_eq other same
    cases other with
    | bool w =>
      cases v <;> cases w
      · rfl
      · cases (List.cons.inj same).1
      · cases (List.cons.inj same).1
      · rfl
    | _ => cases kinds
  | int n =>
    intro b other s t ends ends' same
    have kinds := (Legible.int n).kind_eq other same
    have inside := (numberText_toString n).inside
    cases other with
    | int m => exact Discerned.of_inside inside (numberText_toString m).inside s t ends ends' same
    | float number => exact Discerned.of_inside inside number.inside s t ends ends' same
    | _ => cases kinds
  | float number =>
    intro b other s t ends ends' same
    have kinds := (Legible.float number).kind_eq other same
    cases other with
    | int m =>
      exact Discerned.of_inside number.inside (numberText_toString m).inside s t ends ends' same
    | float number' => exact Discerned.of_inside number.inside number'.inside s t ends ends' same
    | _ => cases kinds
  | str v =>
    intro b other s t ends ends' same
    have kinds := (Legible.str v).kind_eq other same
    cases other with
    | str w => exact discerned_quote v w s t ends ends' same
    | _ => cases kinds
  | arr each ih =>
    intro b other s t _ _ same
    have kinds := (Legible.arr each).kind_eq other same
    cases other with
    | arr each' =>
      have texts := items_inj each each'
        (fun item member other member' => ih item member (each' other member')) same
      rw [dumpsChars_arr, dumpsChars_arr, texts]
    | _ => cases kinds
  | obj each ih =>
    intro b other s t _ _ same
    have kinds := (Legible.obj each).kind_eq other same
    cases other with
    | obj each' =>
      have texts := entries_inj
        (fun field member other member' => ih field member (each' other member')) same
      rw [dumpsChars_obj, dumpsChars_obj, texts]
    | _ => cases kinds

theorem str_of_dumpsChars {s t : String}
    (same : dumpsChars floatRepr (.str s) = dumpsChars floatRepr (.str t)) : s = t := by
  rw [dumpsChars, dumpsChars] at same
  exact quote_inj (congrArg (fun text => text ++ []) same)

/-- The text of a list tells the texts of its items. -/
theorem texts_of_dumpsChars_arr {items others : List Json}
    (legible : Legible floatRepr (.arr items)) (legible' : Legible floatRepr (.arr others))
    (same : dumpsChars floatRepr (.arr items) = dumpsChars floatRepr (.arr others)) :
    items.map (dumpsChars floatRepr) = others.map (dumpsChars floatRepr) :=
  items_inj legible.item legible'.item
    (fun item member other member' =>
      (legible.item item member).discerned (legible'.item other member'))
    (congrArg (fun text => text ++ []) same)

theorem strs_of_dumpsChars {xs ys : List String}
    (same : dumpsChars floatRepr (.arr (xs.map .str)) = dumpsChars floatRepr (.arr (ys.map .str))) :
    xs = ys := by
  have texts := texts_of_dumpsChars_arr (Textual.strs xs).legible (Textual.strs ys).legible same
  rw [List.map_map, List.map_map] at texts
  exact List.map_injective_iff.mpr (fun _ _ => str_of_dumpsChars) texts

/-- The text of a dictionary tells the texts of its values, by key. -/
theorem entries_of_dumpsChars {fields others : List (String × Json)}
    (legible : Legible floatRepr (.obj fields)) (legible' : Legible floatRepr (.obj others))
    (same : dumpsChars floatRepr (.obj fields) = dumpsChars floatRepr (.obj others)) :
    (fields.map fun field => (field.1, dumpsChars floatRepr field.2)).Perm
      (others.map fun field => (field.1, dumpsChars floatRepr field.2)) := by
  have sorted := entries_inj
    (fun field member other member' =>
      (legible.value field member).discerned (legible'.value other member'))
    (congrArg (fun text => text ++ []) same)
  refine (List.perm_insertionSort (fun x y => x.1 ≤ y.1) _).symm.trans ?_
  rw [← entries, sorted]
  exact List.perm_insertionSort _ _

/-- The text of a dictionary tells the texts of its values. -/
theorem texts_of_dumpsChars_obj {fields others : JsonObject} (textual : Textual (.obj fields))
    (textual' : Textual (.obj others)) (keys : fields.map Prod.fst = others.map Prod.fst)
    (nodup : (fields.map Prod.fst).Nodup)
    (same : dumpsChars floatRepr (.obj fields) = dumpsChars floatRepr (.obj others)) :
    fields.map (fun field => dumpsChars floatRepr field.2) =
      others.map fun field => dumpsChars floatRepr field.2 := by
  have written := eq_of_perm_of_keys (entries_of_dumpsChars textual.legible textual'.legible same)
    (by simpa [Function.comp_def] using keys) (by simpa [Function.comp_def] using nodup)
  have values := congrArg (fun texts => texts.map Prod.snd) written
  simpa [Function.comp_def] using values

end Json

end Py
