import Genesis.Research.Documents

/-!
# The headings of an accepted answer

The headings are searched in the whole answer, the citations included, and a
citation contains the fifth heading.  The first four contain a letter that no
citation does, so they are found between the citations or not at all
(`isIn_casefold_iff`).  The fifth is found in every answer that cites a source,
and every accepted answer does: its check never fails on its own.
-/

namespace Genesis

open Py

/-- The heading stands between two citations of the answer, in any case. -/
def outsideMarkers (unicode : Unicode) (answer heading : String) : Bool :=
  (CITATION.gaps answer.toList).any fun gap => isIn heading (unicode.casefold (String.ofList gap))

/-- The heading stands in what is left of the answer without its citations. -/
def leftWithoutMarkers (unicode : Unicode) (answer heading : String) : Bool :=
  isIn heading (unicode.casefold (String.ofList (CITATION.remove answer.toList)))

/-- Nothing but the last heading is in question: the other four are in the answer,
it cites a source, and every citation is in bounds. -/
structure OtherwiseAcceptable (unicode : Unicode) (answer : String) (sourceLineCount : ℕ) :
    Prop where
  headings : ∀ heading ∈ REQUIRED_HEADINGS, heading ≠ "sumber" →
    isIn heading (unicode.casefold answer) = true
  cited : ∃ citation, Cites answer citation
  inBounds : ∀ citation, Cites answer citation → citation.InBounds sourceLineCount

section

variable {unicode : Unicode} {answer heading : String} {sourceLineCount : ℕ}

/-! ## Folded text -/

/-- `casefold` on lists of characters. -/
def foldChars (unicode : Unicode) (text : List Char) : List Char :=
  (unicode.casefold (String.ofList text)).toList

theorem foldChars_append (folds : unicode.Folds) (s t : List Char) :
    foldChars unicode (s ++ t) = foldChars unicode s ++ foldChars unicode t := by
  rw [foldChars, String.ofList_append, folds.append, String.toList_append]
  rfl

theorem foldChars_ascii (folds : unicode.Folds) {text : List Char}
    (ascii : (text.all fun c => c.toNat < 128) = true) :
    foldChars unicode text = text.map Char.toLower := by
  have each : ∀ c ∈ (String.ofList text).toList, c.toNat < 128 := by
    rw [String.toList_ofList]
    exact forall_mem_of_all ascii
  rw [foldChars, folds.ascii _ each, String.toList_ofList, String.toList_ofList]

theorem foldChars_digits (keeps : unicode.KeepsDecimals) (number : Decimals) :
    foldChars unicode number.digits = number.digits := by
  have decimal : ∀ c ∈ (String.ofList number.digits).toList, isDecimal c = true := by
    rw [String.toList_ofList]
    exact number.decimal
  rw [foldChars, keeps _ decimal, String.toList_ofList]

/-- A folded citation: the brackets stay, the letters are lowered. -/
theorem foldChars_spell (folds : unicode.Folds) (citation : Citation) :
    foldChars unicode (CITATION.spell citation) =
      '[' :: (foldChars unicode citation.inside ++ [']']) := by
  have left : foldChars unicode ['['] = ['['] := by
    rw [foldChars_ascii folds (by decide)]
    rfl
  have right : foldChars unicode [']'] = [']'] := by
    rw [foldChars_ascii folds (by decide)]
    rfl
  have split : CITATION.spell citation = ['['] ++ (citation.inside ++ [']']) := rfl
  rw [split, foldChars_append folds, foldChars_append folds, left, right]
  rfl

theorem foldChars_inside (folds : unicode.Folds) (keeps : unicode.KeepsDecimals)
    (citation : Citation) :
    foldChars unicode citation.inside = "sumber l".toList ++
      (citation.rawStart.digits ++ ("-l".toList ++ citation.rawEnd.digits)) := by
  have source : foldChars unicode "Sumber L".toList = "sumber l".toList := by
    rw [foldChars_ascii folds (by decide)]
    decide
  have dash : foldChars unicode "-L".toList = "-l".toList := by
    rw [foldChars_ascii folds (by decide)]
    decide
  unfold Citation.inside
  simp only [foldChars_append folds, source, dash, foldChars_digits keeps]

/-! ## Where a heading stands -/

theorem brackets_notMem_headings :
    ∀ heading ∈ REQUIRED_HEADINGS, '[' ∉ heading.toList ∧ ']' ∉ heading.toList := by
  decide

/-- A heading in the answer stands between its citations or within one. -/
theorem isIn_casefold_iff (folds : unicode.Folds) (required : heading ∈ REQUIRED_HEADINGS) :
    isIn heading (unicode.casefold answer) = true ↔
      outsideMarkers unicode answer heading = true ∨
        ∃ citation, Cites answer citation ∧
          heading.toList <:+: foldChars unicode citation.inside := by
  obtain ⟨left_absent, right_absent⟩ := brackets_notMem_headings heading required
  have whole : (unicode.casefold answer).toList = foldChars unicode answer.toList := by
    rw [foldChars, String.ofList_toList]
  rw [isIn_iff, whole, CITATION.infix_fold_iff (foldChars_append folds) (foldChars_spell folds)
    left_absent right_absent]
  simp only [outsideMarkers, List.any_eq_true, isIn_iff, Marker.mem_findall_iff, Cites, foldChars]

theorem leftWithoutMarkers_of_outside (folds : unicode.Folds)
    (outside : outsideMarkers unicode answer heading = true) :
    leftWithoutMarkers unicode answer heading = true := by
  obtain ⟨gap, member, inGap⟩ := List.any_eq_true.mp outside
  rw [isIn_iff] at inGap
  rw [leftWithoutMarkers, isIn_iff]
  exact CITATION.infix_fold_remove (foldChars_append folds) member inGap

/-- The other headings have a letter that no citation has. -/
theorem outsideMarkers_of_ne (folds : unicode.Folds) (keeps : unicode.KeepsDecimals)
    (required : heading ∈ REQUIRED_HEADINGS) (other : heading ≠ "sumber")
    (present : isIn heading (unicode.casefold answer) = true) :
    outsideMarkers unicode answer heading = true := by
  have letter : ∀ heading ∈ REQUIRED_HEADINGS, heading ≠ "sumber" → 'a' ∈ heading.toList := by
    decide
  rcases (isIn_casefold_iff folds required).mp present with outside | ⟨citation, -, within⟩
  · exact outside
  have noDigit : isDecimal 'a' = false := by decide +kernel
  have absent (number : Decimals) : 'a' ∉ number.digits := by
    intro member
    rw [number.decimal _ member] at noDigit
    cases noDigit
  have noSource : 'a' ∉ "sumber l".toList := by decide
  have noDash : 'a' ∉ "-l".toList := by decide
  have member := within.subset (letter heading required other)
  rw [foldChars_inside folds keeps] at member
  rcases List.mem_append.mp member with source | numbers
  · exact absurd source noSource
  rcases List.mem_append.mp numbers with start | rest
  · exact absurd start (absent _)
  rcases List.mem_append.mp rest with dash | stop
  · exact absurd dash noDash
  · exact absurd stop (absent _)

/-- A citation contains the last heading. -/
theorem isIn_sumber_of_cites (folds : unicode.Folds) (keeps : unicode.KeepsDecimals)
    {citation : Citation} (cites : Cites answer citation) :
    isIn "sumber" (unicode.casefold answer) = true := by
  refine (isIn_casefold_iff folds (by decide)).mpr (.inr ⟨citation, cites, ?_⟩)
  have start : "sumber".toList <+: "sumber l".toList := by decide
  rw [foldChars_inside folds keeps]
  exact (start.trans (List.prefix_append _ _)).isInfix

/-- The check of the last heading never fails on its own. -/
theorem validateSemanticAnswer_eq_ok_iff_otherwise (folds : unicode.Folds)
    (keeps : unicode.KeepsDecimals) :
    validateSemanticAnswer unicode answer sourceLineCount = .ok () ↔
      OtherwiseAcceptable unicode answer sourceLineCount := by
  rw [validateSemanticAnswer_eq_ok_iff]
  refine ⟨?_, ?_⟩
  · intro h
    obtain ⟨headings, cited, inBounds⟩ := h
    exact ⟨fun heading required _ => headings heading required, cited, inBounds⟩
  · intro acceptable
    refine ⟨?_, acceptable.cited, acceptable.inBounds⟩
    intro heading required
    by_cases last : heading = "sumber"
    · obtain ⟨citation, cites⟩ := acceptable.cited
      rw [last]
      exact isIn_sumber_of_cites folds keeps cites
    · exact acceptable.headings heading required last

end

/-- Every accepted answer has the first four headings outside of its citations.  It
has all five there exactly when it writes the last one itself, unless something
else is wrong with it; the same holds of the text without the citations. -/
theorem headings_enforced_iff {unicode : Unicode} (folds : unicode.Folds)
    (keeps : unicode.KeepsDecimals) (answer : String) (sourceLineCount : ℕ) :
    (validateSemanticAnswer unicode answer sourceLineCount = .ok () →
      ∀ heading ∈ REQUIRED_HEADINGS, heading ≠ "sumber" →
        outsideMarkers unicode answer heading = true) ∧
    ((validateSemanticAnswer unicode answer sourceLineCount = .ok () →
        ∀ heading ∈ REQUIRED_HEADINGS, outsideMarkers unicode answer heading = true) ↔
      (OtherwiseAcceptable unicode answer sourceLineCount →
        outsideMarkers unicode answer "sumber" = true)) ∧
    ((validateSemanticAnswer unicode answer sourceLineCount = .ok () →
        ∀ heading ∈ REQUIRED_HEADINGS, leftWithoutMarkers unicode answer heading = true) ↔
      (OtherwiseAcceptable unicode answer sourceLineCount →
        leftWithoutMarkers unicode answer "sumber" = true)) := by
  rw [validateSemanticAnswer_eq_ok_iff_otherwise folds keeps]
  have last : "sumber" ∈ REQUIRED_HEADINGS := by decide
  have others : OtherwiseAcceptable unicode answer sourceLineCount →
      ∀ heading ∈ REQUIRED_HEADINGS, heading ≠ "sumber" →
        outsideMarkers unicode answer heading = true :=
    fun acceptable heading required other =>
      outsideMarkers_of_ne folds keeps required other (acceptable.headings heading required other)
  refine ⟨others, ⟨fun enforced acceptable => enforced acceptable _ last, ?_⟩,
    ⟨fun enforced acceptable => enforced acceptable _ last, ?_⟩⟩
  · intro written acceptable heading required
    by_cases same : heading = "sumber"
    · rw [same]
      exact written acceptable
    · exact others acceptable heading required same
  · intro written acceptable heading required
    by_cases same : heading = "sumber"
    · rw [same]
      exact written acceptable
    · exact leftWithoutMarkers_of_outside folds (others acceptable heading required same)

/-- With a heading for the sources the answer is accepted and has all five. -/
theorem headings_enforced_policy :
    validateSemanticAnswer .ascii DocumentIntelligence.policyAnswer.content 2 = .ok () ∧
      ∀ heading ∈ REQUIRED_HEADINGS,
        outsideMarkers .ascii DocumentIntelligence.policyAnswer.content heading = true := by
  have written : outsideMarkers .ascii DocumentIntelligence.policyAnswer.content "sumber" =
      true := by decide +kernel
  have enforced := (headings_enforced_iff Unicode.ascii_folds Unicode.ascii_keepsDecimals
    DocumentIntelligence.policyAnswer.content 2).2.1.mpr fun _ => written
  exact ⟨DocumentIntelligence.policyAnswer_accepted,
    enforced DocumentIntelligence.policyAnswer_accepted⟩

/-- An answer whose only sources are in its citation. -/
def unsourcedAnswer : String :=
  "Jawaban Ringkas\nTemuan dan Kekurangan [Sumber L1-L1]\nChecklist Perbaikan\n" ++
    "Batasan dan Informasi yang Belum Tersedia"

/-- An answer without the last heading is accepted. -/
theorem headings_counterexample :
    ¬ ∀ (unicode : Unicode), unicode.Folds → unicode.KeepsDecimals →
      ∀ (answer : String) (sourceLineCount : ℕ),
        validateSemanticAnswer unicode answer sourceLineCount = .ok () →
          ∀ heading ∈ REQUIRED_HEADINGS, outsideMarkers unicode answer heading = true ∧
            leftWithoutMarkers unicode answer heading = true := by
  intro enforced
  have accepted : validateSemanticAnswer .ascii unsourcedAnswer 1 = .ok () := by decide +kernel
  have missing : outsideMarkers .ascii unsourcedAnswer "sumber" = false := by decide +kernel
  have found := (enforced .ascii Unicode.ascii_folds Unicode.ascii_keepsDecimals unsourcedAnswer 1
    accepted "sumber" (by decide)).1
  rw [missing] at found
  cases found

end Genesis
