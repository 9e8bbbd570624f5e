import StyleCatalog.Proofs.Text.Pieces
import StyleCatalog.Reference.Numbering

/-! # Steps of a reference

A normalized reference and its steps say the same: joining the steps gives the reference back, and
steps without full stops come back from their join. Numbers are normalized already, so the steps of
`2.10` are the numerals `2` and `10`.
-/

namespace StyleCatalog

namespace Text

theorem lowerChar_of_lt {c : Char} (code : c.toNat < 65) : lowerChar c = c := by
  have noCapital : ¬(c.val ≥ 'A'.val ∧ c.val ≤ 'Z'.val) := by
    intro range
    have least : 65 ≤ c.toNat := UInt32.le_iff_toNat_le.mp range.1
    omega
  rw [lowerChar, if_pos (by omega)]
  exact dif_neg noCapital

/-- A text without letters is in lower case. -/
theorem lower_of_lt {t : Text} (codes : ∀ c ∈ t, c.toNat < 65) : lower t = t := by
  suffices fromAny : ∀ before, lowerFrom before t = t from fromAny []
  induction t with
  | nil => exact fun before => rfl
  | cons c rest induction =>
      intro before
      have code : c.toNat < 65 := codes c List.mem_cons_self
      have noSigma : c ≠ 'Σ' := by
        rintro rfl
        exact absurd code (by decide)
      have noDottedI : c ≠ 'İ' := by
        rintro rfl
        exact absurd code (by decide)
      have lowered :=
        induction (fun other member => codes other (List.mem_cons_of_mem c member)) (c :: before)
      rw [lowerFrom, lowerAt, if_neg noSigma, if_neg noDottedI, lowerChar_of_lt code, lowered]
      rfl

end Text

namespace Reference

theorem chunks_ne_nil (reference : Text) : chunks reference ≠ [] :=
  Text.splitAtChar_ne_nil '.' _

theorem dot_not_mem_of_mem_chunks {reference : Text} {step : Chunk}
    (member : step ∈ chunks reference) : '.' ∉ step :=
  Text.not_mem_of_mem_splitAtChar member

theorem join_chunks (reference : Text) : join (chunks reference) = normalize reference :=
  Text.intercalate_splitAtChar '.' _

theorem splitAtChar_join {steps : List Chunk} (some : steps ≠ [])
    (free : ∀ step ∈ steps, '.' ∉ step) : Text.splitAtChar '.' (join steps) = steps :=
  Text.splitAtChar_intercalate some free

theorem chunks_eq_iff {a b : Text} : chunks a = chunks b ↔ normalize a = normalize b := by
  constructor
  · intro same
    rw [← join_chunks, same, join_chunks]
  · intro same
    rw [chunks, same, chunks]

/-! ## Numbers -/

theorem isDigit_or_dot_of_mem_numberOf {path : List Nat} {c : Char}
    (member : c ∈ Numbering.numberOf path) : c.isDigit = true ∨ c = '.' := by
  induction path with
  | nil => simp [Numbering.numberOf] at member
  | cons n rest induction =>
      cases rest with
      | nil =>
          left
          apply Text.isDigit_of_mem_ofNat
          simpa [Numbering.numberOf] using member
      | cons m others =>
          rw [Numbering.numberOf, List.map_cons, List.map_cons, List.intercalate_cons_cons,
            List.append_assoc, List.mem_append, List.mem_append] at member
          rcases member with digit | separator | later
          · exact .inl (Text.isDigit_of_mem_ofNat digit)
          · exact .inr (by simpa using separator)
          · exact induction later

theorem isNumericReference_numberOf (path : List Nat) :
    isNumericReference (Numbering.numberOf path) = true := by
  rw [isNumericReference, List.all_eq_true]
  intro c member
  rcases isDigit_or_dot_of_mem_numberOf member with digit | dot
  · simp [digit]
  · simp [dot]

theorem normalize_numberOf (path : List Nat) :
    normalize (Numbering.numberOf path) = Numbering.numberOf path := by
  have codes : ∀ c ∈ Numbering.numberOf path, c.toNat < 65 ∧ c ≠ ' ' := by
    intro c member
    rcases isDigit_or_dot_of_mem_numberOf member with digit | dot
    · have code := Text.toNat_of_isDigit digit
      refine ⟨by omega, ?_⟩
      rintro rfl
      exact absurd digit (by decide)
    · subst dot
      decide
  have noBlank : ' ' ∉ Numbering.numberOf path := fun member => (codes ' ' member).2 rfl
  rw [normalize, Text.lower_of_lt fun c member => (codes c member).1]
  exact Text.replaceAll_of_not_mem _ _ noBlank

/-- The steps of a number are the numerals it was written with. -/
theorem chunks_numberOf {path : List Nat} (some : path ≠ []) :
    chunks (Numbering.numberOf path) = path.map Text.ofNat := by
  rw [chunks, normalize_numberOf]
  apply splitAtChar_join
  · simpa using some
  · intro step member dot
    rcases List.mem_map.mp member with ⟨n, -, rfl⟩
    exact absurd (Text.isDigit_of_mem_ofNat dot) (by decide)

theorem numberOf_injective {path other : List Nat} (some : path ≠ []) (otherSome : other ≠ [])
    (same : Numbering.numberOf path = Numbering.numberOf other) : path = other := by
  have numerals := congrArg chunks same
  rw [chunks_numberOf some, chunks_numberOf otherSome] at numerals
  exact (List.map_inj_right fun _ _ equal => Text.ofNat_injective equal).mp numerals

end Reference

end StyleCatalog
