import Mathlib.Data.List.Infix
import Genesis.Lib.Python

/-!
# Text operations of Python

Searching and cutting text: `re.findall` of a repeated character class,
substring tests, `strip`, and `title` on ASCII text.  Case folding and lower
case depend on the Unicode tables, which are arguments.
-/

namespace Py

/-- The case mappings of Unicode. -/
structure Unicode where
  /-- `str.casefold`. -/
  casefold : String → String
  /-- `str.lower`. -/
  lower : String → String

/-- The case mappings as they are on ASCII text. -/
def Unicode.ascii : Unicode where
  casefold s := String.ofList (s.toList.map Char.toLower)
  lower s := String.ofList (s.toList.map Char.toLower)

/-- Case folding works character by character, and lowers ASCII letters. -/
structure Unicode.Folds (unicode : Unicode) : Prop where
  append : ∀ s t, unicode.casefold (s ++ t) = unicode.casefold s ++ unicode.casefold t
  ascii : ∀ s, (∀ c ∈ s.toList, c.toNat < 128) →
    unicode.casefold s = String.ofList (s.toList.map Char.toLower)

theorem Unicode.ascii_folds : Unicode.ascii.Folds where
  append s t := by
    apply String.toList_inj.mp
    simp [Unicode.ascii]
  ascii _ _ := rfl

/-- The maximal runs of a character class, `word` being the one under way. -/
def runs (inClass : Char → Bool) (word : List Char) : List Char → List (List Char)
  | [] => if word.isEmpty then [] else [word]
  | c :: rest =>
    if inClass c then runs inClass (word ++ [c]) rest
    else if word.isEmpty then runs inClass [] rest
    else word :: runs inClass [] rest

/-- `re.findall` of a character class followed by `+`. -/
def findallRuns (inClass : Char → Bool) (s : String) : List String :=
  (runs inClass [] s.toList).map String.ofList

/-- `needle in text`. -/
def isIn (needle text : String) : Bool :=
  text.toList.tails.any fun suffix => needle.toList.isPrefixOf suffix

theorem isIn_iff {needle text : String} :
    isIn needle text = true ↔ needle.toList <:+: text.toList := by
  simp only [isIn, List.any_eq_true, List.mem_tails, List.isPrefixOf_iff_prefix,
    List.infix_iff_prefix_suffix, and_comm]

/-- `s.endswith(suffix)`. -/
def endsWith (s suffix : String) : Bool := suffix.toList.isSuffixOf s.toList

/-- `s.strip()`. -/
def strip (s : String) : String :=
  String.ofList (((s.toList.dropWhile isSpace).reverse.dropWhile isSpace).reverse)

/-- `[a-z0-9]`. -/
def isLowerAlphanum (c : Char) : Bool := ('a' ≤ c && c ≤ 'z') || ('0' ≤ c && c ≤ '9')

/-- `[a-z0-9_]`. -/
def isWordChar (c : Char) : Bool := isLowerAlphanum c || c == '_'

/-- The decimal zeros of Unicode. -/
def decimalZeros : List ℕ :=
  [0x30, 0x660, 0x6f0, 0x7c0, 0x966, 0x9e6, 0xa66, 0xae6, 0xb66, 0xbe6, 0xc66, 0xce6, 0xd66,
    0xde6, 0xe50, 0xed0, 0xf20, 0x1040, 0x1090, 0x17e0, 0x1810, 0x1946, 0x19d0, 0x1a80, 0x1a90,
    0x1b50, 0x1bb0, 0x1c40, 0x1c50, 0xa620, 0xa8d0, 0xa900, 0xa9d0, 0xa9f0, 0xaa50, 0xabf0,
    0xff10, 0x104a0, 0x10d30, 0x11066, 0x110f0, 0x11136, 0x111d0, 0x112f0, 0x11450, 0x114d0,
    0x11650, 0x116c0, 0x11730, 0x118e0, 0x11950, 0x11c50, 0x11d50, 0x11da0, 0x11f50, 0x16a60,
    0x16ac0, 0x16b50, 0x1d7ce, 0x1d7d8, 0x1d7e2, 0x1d7ec, 0x1d7f6, 0x1e140, 0x1e2f0, 0x1e4f0,
    0x1e950, 0x1fbf0]

/-- `\d`: a decimal digit of any script. -/
def isDecimal (c : Char) : Bool :=
  decimalZeros.any fun first => first ≤ c.toNat && c.toNat < first + 10

/-- Decimal digits have no case. -/
def Unicode.KeepsDecimals (unicode : Unicode) : Prop :=
  ∀ s, (∀ c ∈ s.toList, isDecimal c = true) → unicode.casefold s = s

theorem Unicode.ascii_keepsDecimals : Unicode.ascii.KeepsDecimals := by
  intro s decimal
  have noUpper : ∀ c : Char, isDecimal c = true → c.toLower = c := by
    intro c counts
    obtain ⟨first, member, within⟩ := List.any_eq_true.mp counts
    simp only [Bool.and_eq_true, decide_eq_true_eq] at within
    have outside : ∀ start ∈ decimalZeros, start + 10 ≤ 65 ∨ 90 < start := by decide
    have away := outside first member
    unfold Char.toLower
    rw [dif_neg]
    intro upper
    have least : 65 ≤ c.toNat := UInt32.le_iff_toNat_le.mp upper.1
    have most : c.toNat ≤ 90 := UInt32.le_iff_toNat_le.mp upper.2
    omega
  have same : s.toList.map Char.toLower = s.toList := by
    rw [List.map_congr_left fun c member => noUpper c (decimal c member), List.map_id']
  apply String.toList_inj.mp
  rw [ascii, String.toList_ofList, same]

/-- The value of a decimal digit. -/
def decimalValue (c : Char) : ℕ :=
  match decimalZeros.find? fun first => first ≤ c.toNat && c.toNat < first + 10 with
  | some first => c.toNat - first
  | none => 0

/-- `int` of a text of decimal digits. -/
def intOfDecimals (digits : List Char) : ℕ :=
  digits.foldl (fun value c => 10 * value + decimalValue c) 0

/-- `str.title` on ASCII text: a letter after a letter is lower case, any other upper case. -/
def titleChars (afterLetter : Bool) : List Char → List Char
  | [] => []
  | c :: rest => (if afterLetter then c.toLower else c.toUpper) :: titleChars c.isAlpha rest

def title (s : String) : String := String.ofList (titleChars false s.toList)

example : findallRuns isWordChar "task_1, finding" = ["task_1", "finding"] ∧
    isIn "ask" "task" = true ∧ title "read 2nd one" = "Read 2Nd One" := by
  decide +kernel

end Py
