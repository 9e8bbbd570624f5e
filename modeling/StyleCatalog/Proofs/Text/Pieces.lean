import Mathlib.Algebra.Ring.Nat
import StyleCatalog.Text.Basic

/-! # Pieces of a text and decimal numerals

Cutting a text at a character is the list library's `splitOn`, so nothing is lost by it, and pieces
that do not hold the separator come back from their join. A decimal numeral is such a piece, and it
denotes the number it was written for.
-/

namespace StyleCatalog.Text

/-! ## Cutting and joining -/

theorem splitAtChar_eq_splitOn (separator : Char) (t : Text) :
    splitAtChar separator t = t.splitOn separator := by
  induction t with
  | nil => rfl
  | cons c rest induction =>
      rw [splitAtChar, List.splitOn_cons_eq_if_modifyHead, induction]
      by_cases same : c = separator
      · simp [same]
      · cases pieces : rest.splitOn separator with
        | nil => exact absurd pieces (List.splitOn_ne_nil separator rest)
        | cons piece others => simp [same]

theorem splitAtChar_ne_nil (separator : Char) (t : Text) : splitAtChar separator t ≠ [] := by
  rw [splitAtChar_eq_splitOn]
  exact List.splitOn_ne_nil separator t

/-- A text is the join of its pieces. -/
theorem intercalate_splitAtChar (separator : Char) (t : Text) :
    List.intercalate [separator] (splitAtChar separator t) = t := by
  rw [splitAtChar_eq_splitOn]
  exact List.intercalate_splitOn separator

/-- Pieces without the separator come back from their join. -/
theorem splitAtChar_intercalate {separator : Char} {pieces : List Text} (some : pieces ≠ [])
    (free : ∀ piece ∈ pieces, separator ∉ piece) :
    splitAtChar separator (List.intercalate [separator] pieces) = pieces := by
  rw [splitAtChar_eq_splitOn]
  exact List.splitOn_intercalate separator free some

theorem not_mem_of_mem_splitAtChar {separator : Char} {t piece : Text}
    (member : piece ∈ splitAtChar separator t) : separator ∉ piece := by
  induction t generalizing piece with
  | nil => simp_all [splitAtChar]
  | cons c rest induction =>
      rw [splitAtChar] at member
      by_cases same : c = separator
      · simp only [same, if_true] at member
        rcases List.mem_cons.mp member with empty | later
        · simp [empty]
        · exact induction later
      · simp only [same, if_false] at member
        split at member
        · rw [List.mem_singleton] at member
          simp [member, Ne.symm same]
        · rename_i first others pieces
          rcases List.mem_cons.mp member with grown | later
          · have firstFree : separator ∉ first := induction (by simp [pieces])
            rw [grown]
            exact List.not_mem_cons_of_ne_of_not_mem (Ne.symm same) firstFree
          · exact induction (by simp [pieces, later])

/-- A beginning without the separator goes to the first piece. -/
theorem splitAtChar_append {separator : Char} {t : Text} (free : separator ∉ t) (u : Text) :
    splitAtChar separator (t ++ u) = (splitAtChar separator u).modifyHead (t ++ ·) := by
  rw [splitAtChar_eq_splitOn, splitAtChar_eq_splitOn]
  induction t with
  | nil =>
      rw [List.nil_append]
      cases u.splitOn separator <;> rfl
  | cons c rest induction =>
      rw [List.mem_cons, not_or] at free
      rw [List.cons_append, List.splitOn_cons_eq_if_modifyHead, induction free.2,
        beq_false_of_ne (Ne.symm free.1), if_neg Bool.false_ne_true, List.modifyHead_modifyHead]
      rfl

theorem splitAtChar_of_not_mem {separator : Char} {t : Text} (free : separator ∉ t) :
    splitAtChar separator t = [t] := by
  have split := splitAtChar_append free []
  rw [List.append_nil] at split
  rw [split]
  exact congrArg (fun piece => [piece]) (List.append_nil t)

theorem intercalate_append (separator : Text) {pieces others : List Text} (some : pieces ≠ [])
    (otherSome : others ≠ []) :
    List.intercalate separator (pieces ++ others) =
      List.intercalate separator pieces ++ (separator ++ List.intercalate separator others) := by
  induction pieces with
  | nil => exact absurd rfl some
  | cons piece rest induction =>
      cases rest with
      | nil =>
          cases others with
          | nil => exact absurd rfl otherSome
          | cons other more =>
              rw [List.singleton_append, List.intercalate_cons_cons, List.intercalate_singleton,
                List.append_assoc]
      | cons next more =>
          rw [List.cons_append, List.cons_append, List.intercalate_cons_cons,
            List.intercalate_cons_cons, ← List.cons_append, induction (List.cons_ne_nil _ _),
            List.append_assoc, List.append_assoc, List.append_assoc]

/-- The join of the first pieces begins the join of them all. -/
theorem intercalate_isPrefix (separator : Text) {pieces others : List Text}
    (within : pieces <+: others) :
    List.intercalate separator pieces <+: List.intercalate separator others := by
  rcases within with ⟨rest, rfl⟩
  by_cases some : pieces = []
  · rw [some]
    exact List.nil_prefix
  · by_cases more : rest = []
    · simp [more]
    · rw [intercalate_append separator some more]
      exact List.prefix_append _ _

/-! ## Replacing -/

theorem replaceAll_cons_of_ne {first c : Char} (more replacement t : Text) (different : first ≠ c) :
    replaceAll (first :: more) replacement (c :: t) =
      c :: replaceAll (first :: more) replacement t := by
  change replaceFrom first more replacement 0 (c :: t) = _
  rw [replaceFrom, List.isPrefixOf_cons_cons, beq_false_of_ne different, Bool.false_and,
    if_neg Bool.false_ne_true]
  rfl

theorem replaceAll_of_not_mem {first : Char} (more replacement : Text) {t : Text}
    (absent : first ∉ t) : replaceAll (first :: more) replacement t = t := by
  induction t with
  | nil => rfl
  | cons c rest induction =>
      rw [List.mem_cons, not_or] at absent
      rw [replaceAll_cons_of_ne _ _ _ absent.1, induction absent.2]

theorem replaceAll_singleton (c : Char) (replacement t : Text) :
    replaceAll [c] replacement t = t.flatMap fun d => if d = c then replacement else [d] := by
  induction t with
  | nil => rfl
  | cons d rest induction =>
      rw [List.flatMap_cons, ← induction]
      by_cases same : d = c
      · subst same
        simp [replaceAll, replaceFrom]
      · rw [replaceAll_cons_of_ne [] replacement rest (Ne.symm same), if_neg same]
        rfl

theorem not_mem_replaceAll_singleton {c : Char} {replacement : Text} (absent : c ∉ replacement)
    (t : Text) : c ∉ replaceAll [c] replacement t := by
  rw [replaceAll_singleton, List.mem_flatMap]
  rintro ⟨d, -, inside⟩
  split at inside
  · exact absent inside
  · rename_i different
    exact different (List.mem_singleton.mp inside).symm

/-! ## Decimal numerals -/

theorem isDigit_of_mem_ofNat {n : Nat} {c : Char} (member : c ∈ ofNat n) : c.isDigit = true :=
  Nat.isDigit_of_mem_toDigits (by decide) (by decide) member

theorem ofNat_ne_nil (n : Nat) : ofNat n ≠ [] := Nat.toDigits_ne_nil

theorem digitsValue_eq_ofDigitChars (digits : Text) :
    digitsValue digits = Nat.ofDigitChars 10 digits 0 := rfl

/-- A numeral denotes the number it was written for. -/
theorem digitsValue_ofNat (n : Nat) : digitsValue (ofNat n) = n := by
  rw [digitsValue_eq_ofDigitChars]
  exact Nat.ofDigitChars_ten_toDigits

theorem ofNat_injective : Function.Injective ofNat := by
  intro m n equal
  rw [← digitsValue_ofNat m, equal, digitsValue_ofNat]

/-- The first digit counts for the powers of ten below it. -/
theorem digitsValue_cons (c : Char) (digits : Text) :
    digitsValue (c :: digits) = 10 ^ digits.length * digitValue c + digitsValue digits := by
  rw [digitsValue_eq_ofDigitChars, Nat.ofDigitChars_cons, Nat.ofDigitChars_eq_ofDigitChars_zero]
  simp [digitsValue_eq_ofDigitChars, digitValue]

theorem toNat_of_isDigit {c : Char} (digit : c.isDigit = true) :
    c.toNat = 48 + digitValue c ∧ digitValue c < 10 := by
  simp only [Char.isDigit, Bool.and_eq_true, decide_eq_true_eq] at digit
  have least : 48 ≤ c.toNat := digit.1
  have most : c.toNat ≤ 57 := digit.2
  have zero : '0'.toNat = 48 := rfl
  rw [digitValue, zero]
  omega

theorem digitsValue_lt {digits : Text} (all : ∀ c ∈ digits, c.isDigit = true) :
    digitsValue digits < 10 ^ digits.length := by
  induction digits with
  | nil => decide
  | cons c rest induction =>
      have first := (toNat_of_isDigit (all c List.mem_cons_self)).2
      have below := induction fun other member => all other (List.mem_cons_of_mem c member)
      have room : 10 ^ rest.length * digitValue c ≤ 10 ^ rest.length * 9 :=
        Nat.mul_le_mul_left _ (by omega)
      rw [digitsValue_cons, List.length_cons, Nat.pow_succ]
      omega

end StyleCatalog.Text
