import Genesis.Lib.Words

/-!
# Markers in a text

A marker is a match of a pattern that begins with a character of its own and ends
with another: `here?` recognises one at the front of a text.  Read from left to
right a text falls into plain characters and markers (`Reads`), from which come
the matches (`findall`), the text without them (`remove`) and the stretches
between them (`gaps`).

`mem_findall_iff`: no occurrence of a marker is missed.  `infix_fold_iff`: a word
without brackets stands in a gap or within a marker, also after both have been
rewritten character by character.
-/

namespace Py

/-- A pattern whose matches `β` are spelled between two characters of their own. -/
structure Marker (α β : Type) where
  opening : α
  closing : α
  inside : β → List α
  here? : List α → Option (β × List α)
  opening_notMem : ∀ b, opening ∉ inside b ++ [closing]
  here?_eq_some_iff : ∀ {text b rest},
    here? text = some (b, rest) ↔ text = opening :: (inside b ++ closing :: rest)

namespace Marker

variable {α β γ : Type} {marker : Marker α β} {text : List α} {b : β}

/-- The text of a match. -/
def spell (marker : Marker α β) (b : β) : List α :=
  marker.opening :: (marker.inside b ++ [marker.closing])

theorem spell_append {rest : List α} : marker.spell b ++ rest =
    marker.opening :: (marker.inside b ++ marker.closing :: rest) := by
  simp [spell]

/-- The characters outside of matches, and the matches. -/
def scanFrom (marker : Marker α β) : ℕ → List α → List (α ⊕ β)
  | 0, _ => []
  | _ + 1, [] => []
  | fuel + 1, c :: rest =>
    match marker.here? (c :: rest) with
    | some (b, after) => .inr b :: marker.scanFrom fuel after
    | none => .inl c :: marker.scanFrom fuel rest

def scan (marker : Marker α β) (text : List α) : List (α ⊕ β) := marker.scanFrom text.length text

/-- `pattern.findall(text)`. -/
def findall (marker : Marker α β) (text : List α) : List β :=
  (marker.scan text).filterMap Sum.getRight?

/-- `pattern.sub("", text)`. -/
def remove (marker : Marker α β) (text : List α) : List α :=
  (marker.scan text).filterMap Sum.getLeft?

/-- The stretches of characters between the matches, `gap` being the one under way. -/
def gapsFrom (gap : List α) : List (α ⊕ β) → List (List α)
  | [] => [gap]
  | .inl c :: pieces => gapsFrom (gap ++ [c]) pieces
  | .inr _ :: pieces => gap :: gapsFrom [] pieces

def gaps (marker : Marker α β) (text : List α) : List (List α) := gapsFrom [] (marker.scan text)

/-- The text falls into these pieces. -/
inductive Reads (marker : Marker α β) : List α → List (α ⊕ β) → Prop
  | nil : Reads marker [] []
  | plain {c : α} {rest : List α} {pieces : List (α ⊕ β)} :
    marker.here? (c :: rest) = none → Reads marker rest pieces →
      Reads marker (c :: rest) (.inl c :: pieces)
  | found {b : β} {rest : List α} {pieces : List (α ⊕ β)} :
    Reads marker rest pieces → Reads marker (marker.spell b ++ rest) (.inr b :: pieces)

theorem reads_scanFrom {fuel : ℕ} (enough : text.length ≤ fuel) :
    Reads marker text (marker.scanFrom fuel text) := by
  induction fuel generalizing text with
  | zero =>
    rw [List.eq_nil_of_length_eq_zero (Nat.le_zero.mp enough)]
    exact .nil
  | succ fuel ih =>
    cases text with
    | nil => exact .nil
    | cons c rest =>
      rw [scanFrom]
      split
      next b after found =>
        have split := marker.here?_eq_some_iff.mp found
        have shorter : after.length ≤ fuel := by
          have lengths := congrArg List.length split
          simp only [List.length_cons, List.length_append] at lengths enough
          omega
        rw [split, ← spell_append]
        exact .found (ih shorter)
      next absent => exact .plain absent (ih (Nat.le_of_succ_le_succ enough))

theorem reads_scan : Reads marker text (marker.scan text) := reads_scanFrom le_rfl

/-! ## Occurrences -/

/-- An occurrence of a marker begins where another begins or after it ends. -/
theorem infix_spell_append_iff {b' : β} {rest : List α} :
    marker.spell b <:+: marker.spell b' ++ rest ↔ b = b' ∨ marker.spell b <:+: rest := by
  refine ⟨?_, ?_⟩
  · intro h
    rw [spell_append] at h
    rcases List.infix_cons_iff.mp h with atStart | later
    · obtain ⟨after, split⟩ := atStart
      rw [spell_append] at split
      have first := marker.here?_eq_some_iff.mpr split.symm
      have second := marker.here?_eq_some_iff.mpr (Eq.refl (marker.opening ::
        (marker.inside b' ++ marker.closing :: rest)))
      rw [first] at second
      cases second
      exact .inl rfl
    · -- further on there is no opening before the rest
      rw [show marker.inside b' ++ marker.closing :: rest =
        marker.inside b' ++ [marker.closing] ++ rest by simp] at later
      have skip : ∀ xs : List α, marker.opening ∉ xs → marker.spell b <:+: xs ++ rest →
          marker.spell b <:+: rest := by
        intro xs absent inAll
        induction xs with
        | nil => exact inAll
        | cons c xs ih =>
          rcases List.infix_cons_iff.mp inAll with atStart | later
          · obtain ⟨same, -⟩ := List.cons_prefix_cons.mp atStart
            exact absurd (same ▸ List.mem_cons_self) absent
          · exact ih (fun member => absent (List.mem_cons_of_mem _ member)) later
      exact .inr (skip _ (marker.opening_notMem b') later)
  · intro h
    rcases h with rfl | later
    · exact (List.prefix_append _ _).isInfix
    · exact later.trans (List.suffix_append _ _).isInfix

/-- Every occurrence is found, and nothing else. -/
theorem mem_findall_iff : b ∈ marker.findall text ↔ marker.spell b <:+: text := by
  rw [findall]
  have reads : Reads marker text (marker.scan text) := reads_scan
  generalize marker.scan text = pieces at reads
  induction reads with
  | nil => simp [spell]
  | @plain c rest pieces absent _ ih =>
    simp only [List.filterMap_cons, Sum.getRight?_inl, ih, List.infix_cons_iff]
    refine ⟨.inr, ?_⟩
    intro h
    rcases h with ⟨after, split⟩ | later
    · rw [spell_append] at split
      rw [marker.here?_eq_some_iff.mpr split.symm] at absent
      cases absent
    · exact later
  | @found b' rest pieces _ ih =>
    simp only [List.filterMap_cons, Sum.getRight?_inr, List.mem_cons, ih, infix_spell_append_iff]

/-! ## Gaps -/

theorem flatten_gapsFrom {gap : List α} {pieces : List (α ⊕ β)} :
    (gapsFrom gap pieces).flatten = gap ++ pieces.filterMap Sum.getLeft? := by
  induction pieces generalizing gap with
  | nil => simp [gapsFrom]
  | cons piece pieces ih =>
    cases piece with
    | inl c =>
      rw [gapsFrom, ih, List.append_assoc]
      rfl
    | inr b =>
      rw [gapsFrom, List.flatten_cons, ih]
      rfl

/-- Without the matches, what stands between them is left. -/
theorem flatten_gaps : (marker.gaps text).flatten = marker.remove text := flatten_gapsFrom

section

variable {fold : List α → List γ} {word : List γ} {left right : γ} {within : β → List γ}

theorem infix_fold_gapsFrom_iff (append : ∀ s t, fold (s ++ t) = fold s ++ fold t)
    (spelled : ∀ b, fold (marker.spell b) = left :: (within b ++ [right]))
    (left_absent : left ∉ word) (right_absent : right ∉ word) {gap : List α}
    {pieces : List (α ⊕ β)} (reads : Reads marker text pieces) :
    word <:+: fold (gap ++ text) ↔ (∃ g ∈ gapsFrom gap pieces, word <:+: fold g) ∨
      ∃ b ∈ pieces.filterMap Sum.getRight?, word <:+: within b := by
  induction reads generalizing gap with
  | nil => simp [gapsFrom]
  | @plain c rest pieces _ _ ih =>
    rw [List.append_cons, ih]
    rfl
  | @found b rest pieces _ ih =>
    -- the brackets of the match cut the text in three
    have three : fold (gap ++ (marker.spell b ++ rest)) =
        fold gap ++ left :: (within b ++ right :: fold rest) := by
      rw [append, append, spelled]
      simp
    have behind : word <:+: fold ([] ++ rest) ↔ (∃ g ∈ gapsFrom [] pieces, word <:+: fold g) ∨
        ∃ b ∈ pieces.filterMap Sum.getRight?, word <:+: within b := ih
    rw [List.nil_append] at behind
    rw [three, infix_append_cons_iff left_absent, infix_append_cons_iff right_absent, behind]
    simp only [gapsFrom, List.filterMap_cons, Sum.getRight?_inr, List.mem_cons, or_and_right,
      exists_or, exists_eq_left]
    rw [or_assoc]
    exact or_congr_right or_left_comm

/-- A word without brackets in the rewritten text stands in a gap or within a match. -/
theorem infix_fold_iff (append : ∀ s t, fold (s ++ t) = fold s ++ fold t)
    (spelled : ∀ b, fold (marker.spell b) = left :: (within b ++ [right]))
    (left_absent : left ∉ word) (right_absent : right ∉ word) :
    word <:+: fold text ↔ (∃ gap ∈ marker.gaps text, word <:+: fold gap) ∨
      ∃ b ∈ marker.findall text, word <:+: within b := by
  have reads : Reads marker text (marker.scan text) := reads_scan
  have all : word <:+: fold ([] ++ text) ↔ _ :=
    infix_fold_gapsFrom_iff append spelled left_absent right_absent reads
  exact all

/-- What stands in a gap is left when the matches are removed. -/
theorem infix_fold_remove (append : ∀ s t, fold (s ++ t) = fold s ++ fold t) {gap : List α}
    (member : gap ∈ marker.gaps text) (inGap : word <:+: fold gap) :
    word <:+: fold (marker.remove text) := by
  obtain ⟨before, after, split⟩ := List.append_of_mem member
  rw [← flatten_gaps, split, List.flatten_append, List.flatten_cons, append, append]
  exact inGap.trans ((List.prefix_append _ _).isInfix.trans (List.suffix_append _ _).isInfix)

end

end Marker

end Py
