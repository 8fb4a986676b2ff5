import Genesis.Lib.Text

/-!
# Words of a text

A word is a run of characters of one class.  A character outside the class
separates: no word reaches across it (`infix_append_cons_iff`).

`spelled` is how `json.dumps` spells a text, in lower case.  It leaves printable
ASCII as it is, up to separators, and puts letters in place of every other
character; `infix_spelled_iff` says where in the text a word of the spelling
comes from.
-/

namespace Py

/-! ## Separators -/

section

variable {α : Type*} {word text rest : List α} {separator : α}

theorem prefix_append_cons (absent : separator ∉ word)
    (isPrefix : word <+: text ++ separator :: rest) : word <+: text := by
  rcases List.prefix_or_prefix_of_prefix isPrefix (List.prefix_append text _) with inside | around
  · exact inside
  · obtain ⟨more, rfl⟩ := around
    cases more with
    | nil => simp
    | cons c more =>
      have first := (List.prefix_append_right_inj text).mp isPrefix
      obtain ⟨same, -⟩ := List.cons_prefix_cons.mp first
      exact absurd (List.mem_append_right text (same ▸ List.mem_cons_self)) absent

/-- What does not contain a separator stands on one side of it. -/
theorem infix_append_cons_iff (absent : separator ∉ word) :
    word <:+: text ++ separator :: rest ↔ word <:+: text ∨ word <:+: rest := by
  refine ⟨?_, ?_⟩
  · intro inAll
    induction text with
    | nil =>
      rcases List.infix_cons_iff.mp inAll with atStart | later
      · have empty : word <+: [] := prefix_append_cons absent atStart
        exact .inl empty.isInfix
      · exact .inr later
    | cons c text ih =>
      rcases List.infix_cons_iff.mp inAll with atStart | later
      · have inText : word <+: c :: text := prefix_append_cons absent atStart
        exact .inl inText.isInfix
      · exact (ih later).imp_left fun before => before.trans (List.suffix_cons c text).isInfix
  · intro h
    rcases h with before | after
    · exact before.trans (List.prefix_append _ _).isInfix
    · exact after.trans ((List.suffix_cons separator rest).trans (List.suffix_append _ _)).isInfix

theorem infix_cons_iff (absent : separator ∉ word) :
    word <:+: separator :: rest ↔ word <:+: rest := by
  have sides : word <:+: [] ++ separator :: rest ↔ word <:+: [] ∨ word <:+: rest :=
    infix_append_cons_iff absent
  refine sides.trans ⟨?_, .inr⟩
  intro h
  rcases h with empty | after
  · rw [List.infix_nil.mp empty]
    exact List.nil_infix
  · exact after

end

/-! ## Runs -/

section

variable {inClass : Char → Bool}

theorem mem_runs {word text run : List Char} (clean : ∀ c ∈ word, inClass c = true)
    (member : run ∈ runs inClass word text) : run ≠ [] ∧ ∀ c ∈ run, inClass c = true := by
  induction text generalizing word with
  | nil =>
    rw [runs] at member
    split at member
    · cases member
    next nonempty =>
      rw [List.mem_singleton] at member
      subst member
      exact ⟨fun empty => nonempty (List.isEmpty_iff.mpr empty), clean⟩
  | cons c text ih =>
    rw [runs] at member
    split at member
    next counts =>
      apply ih _ member
      intro d inWord
      rcases List.mem_append.mp inWord with old | new
      · exact clean d old
      · rw [List.mem_singleton.mp new]
        exact counts
    · split at member
      · exact ih (List.forall_mem_nil _) member
      next nonempty =>
        rcases List.mem_cons.mp member with rfl | later
        · exact ⟨fun empty => nonempty (List.isEmpty_iff.mpr empty), clean⟩
        · exact ih (List.forall_mem_nil _) later

/-- A text of one class is one run. -/
theorem runs_eq_singleton {word text : List Char} (nonempty : word ++ text ≠ [])
    (counts : ∀ c ∈ text, inClass c = true) : runs inClass word text = [word ++ text] := by
  induction text generalizing word with
  | nil =>
    rw [List.append_nil] at nonempty ⊢
    rw [runs, if_neg (fun empty => nonempty (List.isEmpty_iff.mp empty))]
  | cons c text ih =>
    obtain ⟨first, others⟩ := List.forall_mem_cons.mp counts
    rw [runs, if_pos first, ih (by simp) others, List.append_assoc, List.singleton_append]

end

/-- A nonempty word of `[a-z0-9_]`. -/
def IsTerm (word : List Char) : Prop := word ≠ [] ∧ ∀ c ∈ word, isWordChar c = true

theorem isTerm_of_mem_findallRuns {text run : String}
    (member : run ∈ findallRuns isWordChar text) : IsTerm run.toList := by
  obtain ⟨chars, inRuns, rfl⟩ := List.mem_map.mp member
  rw [String.toList_ofList]
  exact mem_runs (List.forall_mem_nil _) inRuns

theorem findallRuns_of_isTerm {word : List Char} (isTerm : IsTerm word) :
    findallRuns isWordChar (String.ofList word) = [String.ofList word] := by
  have run : runs isWordChar [] word = [[] ++ word] := runs_eq_singleton isTerm.1 isTerm.2
  rw [findallRuns, String.toList_ofList, run]
  rfl

theorem IsTerm.not_mem {word : List Char} (isTerm : IsTerm word) {c : Char}
    (separates : isWordChar c = false) : c ∉ word := by
  intro member
  rw [isTerm.2 c member] at separates
  cases separates

/-- The class is ASCII and lower case. -/
theorem toLower_of_isWordChar {c : Char} (counts : isWordChar c = true) :
    c.toNat < 128 ∧ c.toLower = c := by
  have table : ∀ n < 128, isWordChar (Char.ofNat n) = true →
      (Char.ofNat n).toLower = Char.ofNat n := by decide
  have ascii : c.toNat < 128 := by
    have bound : c.toNat ≤ 122 := by
      simp only [isWordChar, isLowerAlphanum, Bool.or_eq_true, Bool.and_eq_true,
        decide_eq_true_eq, beq_iff_eq] at counts
      rcases counts with (⟨-, le⟩ | ⟨-, le⟩) | rfl
      · exact le
      · have digit : c.toNat ≤ 57 := le
        omega
      · decide
    omega
  have lower := table c.toNat ascii
  rw [Char.ofNat_toNat] at lower
  exact ⟨ascii, lower counts⟩

/-! ## The spelling of a text in JSON -/

/-- A character that a JSON string shows as itself, the quote and the backslash
after another backslash. -/
def isPrintable (c : Char) : Bool := 32 ≤ c.toNat && c.toNat ≤ 126

/-- The lower-case characters of `json.dumps(text)` between its quotes. -/
def spelled (text : List Char) : List Char := (text.flatMap Json.escapeChar).map Char.toLower

theorem spelled_append (s t : List Char) : spelled (s ++ t) = spelled s ++ spelled t := by
  simp [spelled]

theorem spelled_cons (c : Char) (text : List Char) :
    spelled (c :: text) = spelled [c] ++ spelled text :=
  spelled_append [c] text

/-- A printable character is spelled as itself, with a backslash before a quote
or a backslash. -/
theorem spelled_printable {c : Char} (printable : isPrintable c = true) :
    spelled [c] = [c.toLower] ∨
      (spelled [c] = ['\\', c.toLower] ∧ isWordChar c.toLower = false) := by
  simp only [isPrintable, Bool.and_eq_true, decide_eq_true_eq] at printable
  by_cases quote : c = '"'
  · subst quote
    exact .inr (by decide)
  by_cases backslash : c = '\\'
  · subst backslash
    exact .inr (by decide)
  left
  have range : 32 ≤ c.toNat ∧ c.toNat ≤ 126 := printable
  have escape : Json.escapeChar c = [c] := by
    unfold Json.escapeChar
    rw [if_neg quote, if_neg backslash, if_neg (by omega), if_neg (by omega), if_neg (by omega),
      if_neg (by omega), if_neg (by omega), if_pos range]
  simp [spelled, escape]

/-- Any other character is spelled by a backslash and some letters. -/
theorem spelled_escaped {c : Char} (escaped : isPrintable c = false) :
    ∃ letters, spelled [c] = '\\' :: letters := by
  have range : ¬ (32 ≤ c.toNat ∧ c.toNat ≤ 126) := by
    intro range
    simp [isPrintable, range] at escaped
  have escape : ∃ letters, Json.escapeChar c = '\\' :: letters := by
    unfold Json.escapeChar
    simp only [if_neg range]
    split_ifs
    all_goals exact ⟨_, rfl⟩
  obtain ⟨letters, escape⟩ := escape
  exact ⟨letters.map Char.toLower, by simp [spelled, escape]⟩

theorem separates_backslash : isWordChar '\\' = false := by decide

section

variable {word before after : List Char}

/-- Printable text has the words of its spelling, whatever stands around it. -/
theorem infix_spelled_printable_iff (isTerm : IsTerm word) {stretch : List Char}
    (printable : ∀ c ∈ stretch, isPrintable c = true) :
    word <:+: before ++ (spelled stretch ++ after) ↔
      word <:+: before ++ (stretch.map Char.toLower ++ after) := by
  induction stretch generalizing before with
  | nil => rfl
  | cons c stretch ih =>
    obtain ⟨first, others⟩ := List.forall_mem_cons.mp printable
    have tail : word <:+: before ++ [c.toLower] ++ (spelled stretch ++ after) ↔
        word <:+: before ++ [c.toLower] ++ (stretch.map Char.toLower ++ after) := ih others
    simp only [List.append_assoc, List.singleton_append] at tail
    rw [spelled_cons, List.append_assoc, List.map_cons, List.cons_append, ← tail]
    rcases spelled_printable first with same | ⟨slashed, separates⟩
    · rw [same, List.singleton_append]
    · -- a quote or a backslash: neither form lets a word through
      rw [slashed]
      simp only [List.cons_append, List.nil_append]
      rw [infix_append_cons_iff (isTerm.not_mem separates_backslash),
        infix_append_cons_iff (isTerm.not_mem separates), infix_cons_iff (isTerm.not_mem separates)]

end

/-- Where a word of the spelling comes from: a printable stretch of the text, or
the spelling of another character and the printable stretch after it. -/
inductive Spells (text word : List Char) : Prop
  | stretch (before stretch after : List Char) (split : text = before ++ (stretch ++ after))
    (printable : ∀ c ∈ stretch, isPrintable c = true) (inside : word <:+: stretch.map Char.toLower)
  | escape (before : List Char) (c : Char) (stretch after : List Char)
    (split : text = before ++ c :: (stretch ++ after)) (escaped : isPrintable c = false)
    (printable : ∀ c ∈ stretch, isPrintable c = true)
    (inside : word <:+: spelled [c] ++ stretch.map Char.toLower)

/-- The spelling of a text after `lead`: a word starts in the lead, before the
first escape, or comes from an escape. -/
theorem spells_of_infix (isTerm : IsTerm word) {lead text : List Char}
    (inside : word <:+: lead ++ spelled text) :
    (∃ stretch after, text = stretch ++ after ∧ (∀ c ∈ stretch, isPrintable c = true) ∧
      word <:+: lead ++ stretch.map Char.toLower) ∨
    ∃ before c stretch after, text = before ++ c :: (stretch ++ after) ∧ isPrintable c = false ∧
      (∀ d ∈ stretch, isPrintable d = true) ∧
      word <:+: spelled [c] ++ stretch.map Char.toLower := by
  induction text generalizing lead with
  | nil => exact .inl ⟨[], [], rfl, List.forall_mem_nil _, inside⟩
  | cons c text ih =>
    rw [spelled_cons, ← List.append_assoc] at inside
    cases kind : isPrintable c with
    | true =>
      have lowered : word <:+: lead ++ [c.toLower] ++ spelled text := by
        have single : word <:+: lead ++ (spelled [c] ++ spelled text) ↔
            word <:+: lead ++ ([c].map Char.toLower ++ spelled text) :=
          infix_spelled_printable_iff isTerm (by simpa using kind)
        rw [List.append_assoc] at inside ⊢
        exact single.mp inside
      rcases ih lowered with ⟨stretch, after, split, printable, inStretch⟩ | escape
      · refine .inl ⟨c :: stretch, after, by rw [split]; rfl, ?_, ?_⟩
        · exact List.forall_mem_cons.mpr ⟨kind, printable⟩
        · simpa using inStretch
      · obtain ⟨before, d, stretch, after, split, rest⟩ := escape
        exact .inr ⟨c :: before, d, stretch, after, by rw [split]; rfl, rest⟩
    | false =>
      rcases ih inside with ⟨stretch, after, split, printable, inStretch⟩ | escape
      · -- the backslash of the escape cuts the lead off
        obtain ⟨letters, slashed⟩ := spelled_escaped kind
        rw [slashed, List.append_assoc, List.cons_append,
          infix_append_cons_iff (isTerm.not_mem separates_backslash)] at inStretch
        rcases inStretch with inLead | inEscape
        · exact .inl ⟨[], c :: text, rfl, List.forall_mem_nil _, by simpa using inLead⟩
        · refine .inr ⟨[], c, stretch, after, by rw [split]; rfl, kind, printable, ?_⟩
          rw [slashed]
          exact inEscape.trans (List.suffix_cons _ _).isInfix
      · obtain ⟨before, d, stretch, after, split, rest⟩ := escape
        exact .inr ⟨c :: before, d, stretch, after, by rw [split]; rfl, rest⟩

theorem infix_spelled_iff (isTerm : IsTerm word) {text : List Char} :
    word <:+: spelled text ↔ Spells text word := by
  refine ⟨?_, ?_⟩
  · intro inside
    have inAll : word <:+: [] ++ spelled text := inside
    rcases spells_of_infix isTerm inAll with stretch | escape
    · obtain ⟨stretch, after, split, printable, inStretch⟩ := stretch
      exact .stretch [] stretch after split printable inStretch
    · obtain ⟨before, c, stretch, after, split, escaped, printable, inEscape⟩ := escape
      exact .escape before c stretch after split escaped printable inEscape
  · intro spells
    cases spells with
    | stretch before stretch after split printable inside =>
      have inSpelled : word <:+: spelled stretch := by
        have plain : word <:+: [] ++ (spelled stretch ++ []) ↔
            word <:+: [] ++ (stretch.map Char.toLower ++ []) :=
          infix_spelled_printable_iff isTerm printable
        simp only [List.nil_append, List.append_nil] at plain
        exact plain.mpr inside
      rw [split, spelled_append, spelled_append]
      exact inSpelled.trans
        ((List.prefix_append _ _).isInfix.trans (List.suffix_append _ _).isInfix)
    | escape before c stretch after split escaped printable inside =>
      have inSpelled : word <:+: spelled [c] ++ spelled stretch := by
        have plain : word <:+: spelled [c] ++ (spelled stretch ++ []) ↔
            word <:+: spelled [c] ++ (stretch.map Char.toLower ++ []) :=
          infix_spelled_printable_iff isTerm printable
        simp only [List.append_nil] at plain
        exact plain.mpr inside
      rw [split, spelled_append, spelled_cons, spelled_append, ← List.append_assoc (spelled [c])]
      exact inSpelled.trans
        ((List.prefix_append _ _).isInfix.trans (List.suffix_append _ _).isInfix)

/-! ## The literal as a whole -/

theorem digitChar_ascii : ∀ d < 16, (Nat.digitChar d).toNat < 128 := by decide

theorem hex4_ascii (n : ℕ) : ∀ d ∈ Json.hex4 n, d.toNat < 128 := by
  have digit : ∀ m, (Nat.digitChar (m % 16)).toNat < 128 :=
    fun m => digitChar_ascii _ (Nat.mod_lt m (by decide))
  simp [Json.hex4, digit]

theorem forall_mem_of_all {α : Type} {xs : List α} {p : α → Prop} [DecidablePred p]
    (all : (xs.all fun x => p x) = true) : ∀ x ∈ xs, p x := by
  intro x member
  exact of_decide_eq_true (List.all_eq_true.mp all x member)

theorem escapeChar_ascii (c : Char) : ∀ d ∈ Json.escapeChar c, d.toNat < 128 := by
  have unicode : ∀ n, ∀ d ∈ '\\' :: 'u' :: Json.hex4 n, d.toNat < 128 := by
    intro n
    simp only [List.forall_mem_cons]
    exact ⟨by decide, by decide, hex4_ascii n⟩
  unfold Json.escapeChar
  dsimp only
  split_ifs with _ _ _ _ _ _ _ range
  any_goals exact forall_mem_of_all rfl
  · rw [List.forall_mem_singleton]
    omega
  · exact unicode _
  · intro d member
    rcases List.mem_append.mp member with high | low
    · exact unicode _ d high
    · exact unicode _ d low

theorem quote_ascii (s : String) : ∀ c ∈ Json.quote s, c.toNat < 128 := by
  intro c member
  rw [Json.quote] at member
  simp only [List.cons_append, List.mem_cons, List.mem_append, List.mem_flatMap,
    List.not_mem_nil, or_false] at member
  rcases member with rfl | ⟨d, -, inEscape⟩ | rfl
  · decide
  · exact escapeChar_ascii d c inEscape
  · decide

/-- The words of a folded string literal are those of its spelling. -/
theorem isIn_casefold_quote_iff {unicode : Unicode} (folds : unicode.Folds) {word s : String}
    (isTerm : IsTerm word.toList) :
    isIn word (unicode.casefold (String.ofList (Json.quote s))) = true ↔
      word.toList <:+: spelled s.toList := by
  have absent : '"' ∉ word.toList := isTerm.not_mem (by decide)
  have lowered : (Json.quote s).map Char.toLower = '"' :: (spelled s.toList ++ ['"']) := by
    simp [Json.quote, spelled]
  rw [isIn_iff, folds.ascii _ (by simpa using quote_ascii s), String.toList_ofList,
    String.toList_ofList, lowered, infix_cons_iff absent, infix_append_cons_iff absent]
  refine ⟨?_, .inl⟩
  intro h
  rcases h with inside | empty
  · exact inside
  · rw [List.infix_nil.mp empty]
    exact List.nil_infix

/-- Printable text in a text folds to its lower case. -/
theorem infix_casefold_of_printable {unicode : Unicode} (folds : unicode.Folds) {s : String}
    {before stretch after : List Char} (split : s.toList = before ++ (stretch ++ after))
    (printable : ∀ c ∈ stretch, isPrintable c = true) :
    stretch.map Char.toLower <:+: (unicode.casefold s).toList := by
  have whole : s = String.ofList before ++ (String.ofList stretch ++ String.ofList after) := by
    apply String.toList_inj.mp
    simp [split]
  have ascii : ∀ c ∈ (String.ofList stretch).toList, c.toNat < 128 := by
    intro c member
    rw [String.toList_ofList] at member
    have range := printable c member
    simp only [isPrintable, Bool.and_eq_true, decide_eq_true_eq] at range
    omega
  rw [whole, folds.append, folds.append, folds.ascii _ ascii, String.toList_append,
    String.toList_append, String.toList_ofList, String.toList_ofList]
  exact (List.prefix_append _ _).isInfix.trans (List.suffix_append _ _).isInfix

end Py
