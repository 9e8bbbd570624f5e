import StyleCatalog.Proofs.Text.Numerals
import StyleCatalog.Reference.Order
import StyleCatalog.Text.Order

/-! # The order of steps

Texts, weights and steps are totally ordered, and only equal ones tie. For steps this rests on
`compareDigits_eq_compare_value`: runs of digits are in the order of the numbers they denote, so
that numbers can be compared by value first and by spelling second.
-/

namespace StyleCatalog

open Std

/-! ## Texts and weights -/

namespace Text

instance : LawfulEqCmp Text.compare where
  compare_self := compare_self _
  eq_of_compare tie := compare_eq_eq_iff.mp tie

instance : TransCmp Text.compare where
  eq_swap {a b} := (compare_swap b a).symm
  isLE_trans {a b c} first second := by
    rw [Ordering.isLE_iff_eq_lt_or_eq_eq] at first second ⊢
    rcases first with first | tie
    · rcases second with second | tie
      · exact .inl (compare_lt_trans first second)
      · rw [← compare_eq_eq_iff.mp tie]
        exact .inl first
    · rw [compare_eq_eq_iff.mp tie]
      exact second

end Text

namespace Weight

theorem compare_eq_compareOn : Weight.compare = compareOn Weight.value := by
  funext a b
  simp only [Weight.compare, compareOn, Ord.compare, compareOfLessAndEq]
  by_cases less : a.value < b.value
  · simp [less]
  · by_cases same : a.value = b.value
    · simp [same]
    · have greater : b.value < a.value := by omega
      simp [less, same, greater]

end Weight

namespace Reference

/-! ## Digits by value -/

theorem compareLength_eq_compare (a b : Nat) : compareLength a b = Ord.compare a b := by
  rcases Nat.lt_trichotomy a b with less | same | greater
  · simp [compareLength, less, Nat.compare_eq_lt.mpr less]
  · simp [compareLength, same]
  · simp [compareLength, Nat.lt_asymm greater, greater, Nat.compare_eq_gt.mpr greater]

/-- Leading zeros add nothing to a number. -/
theorem digitsValue_dropZeros (digits : Text) :
    Text.digitsValue (digits.dropWhile (· = '0')) = Text.digitsValue digits := by
  induction digits with
  | nil => rfl
  | cons c rest induction =>
      by_cases zero : c = '0'
      · subst zero
        rw [List.dropWhile_cons_of_pos (by simp), induction, Text.digitsValue_cons]
        simp [Text.digitValue]
      · rw [List.dropWhile_cons_of_neg (by simpa using zero)]

/-- Of two runs of one length the one with the smaller first digit is the smaller number. -/
theorem digitsValue_cons_lt_cons {c d : Char} {xs ys : Text}
    (xDigits : ∀ e ∈ xs, e.isDigit = true) (sameLength : xs.length = ys.length)
    (less : Text.digitValue c < Text.digitValue d) :
    Text.digitsValue (c :: xs) < Text.digitsValue (d :: ys) := by
  have below := Text.digitsValue_lt xDigits
  have room := Nat.mul_le_mul_left (10 ^ ys.length) (Nat.succ_le_of_lt less)
  rw [sameLength] at below
  rw [Text.digitsValue_cons, Text.digitsValue_cons, sameLength]
  rw [Nat.mul_succ] at room
  omega

theorem compare_add_left (k m n : Nat) : Ord.compare (k + m) (k + n) = Ord.compare m n := by
  simp only [Ord.compare, compareOfLessAndEq, Nat.add_lt_add_iff_left, Nat.add_left_cancel_iff]

/-- Runs of digits of one length are in the order of their numbers. -/
theorem compare_eq_compare_value {x y : Text} (xDigits : ∀ c ∈ x, c.isDigit = true)
    (yDigits : ∀ c ∈ y, c.isDigit = true) (sameLength : x.length = y.length) :
    Text.compare x y = Ord.compare (Text.digitsValue x) (Text.digitsValue y) := by
  induction x generalizing y with
  | nil =>
      have yEmpty : y = [] := List.eq_nil_of_length_eq_zero sameLength.symm
      subst yEmpty
      rfl
  | cons c xs induction =>
      cases y with
      | nil => simp at sameLength
      | cons d ys =>
          have tailLength : xs.length = ys.length := by simpa using sameLength
          have xsDigits : ∀ e ∈ xs, e.isDigit = true :=
            fun e member => xDigits e (List.mem_cons_of_mem c member)
          have ysDigits : ∀ e ∈ ys, e.isDigit = true :=
            fun e member => yDigits e (List.mem_cons_of_mem d member)
          have cCode := Text.toNat_of_isDigit (xDigits c List.mem_cons_self)
          have dCode := Text.toNat_of_isDigit (yDigits d List.mem_cons_self)
          rw [Text.compare]
          rcases Nat.lt_trichotomy c.toNat d.toNat with less | same | greater
          · have smaller := digitsValue_cons_lt_cons (c := c) (d := d) xsDigits tailLength (by omega)
            simp [less, Nat.compare_eq_lt.mpr smaller]
          · have sameDigit : Text.digitValue c = Text.digitValue d := by omega
            rw [Text.digitsValue_cons, Text.digitsValue_cons, tailLength, sameDigit]
            simp only [same, Nat.lt_irrefl, if_false, induction xsDigits ysDigits tailLength]
            exact (compare_add_left _ _ _).symm
          · have smaller :=
              digitsValue_cons_lt_cons (c := d) (d := c) ysDigits tailLength.symm (by omega)
            simp [greater, Nat.lt_asymm greater, Nat.compare_eq_gt.mpr smaller]

/-- A run of digits without leading zeros reaches the power of ten of its length. -/
theorem pow_le_digitsValue {c : Char} {digits : Text} (digit : c.isDigit = true)
    (nonzero : c ≠ '0') : 10 ^ digits.length ≤ Text.digitsValue (c :: digits) := by
  have code := Text.toNat_of_isDigit digit
  have positive : 0 < Text.digitValue c := by
    rcases Nat.eq_zero_or_pos (Text.digitValue c) with zero | positive
    · exact absurd (Char.toNat_inj.mp (by rw [code.1, zero]; rfl)) nonzero
    · exact positive
  have room := Nat.mul_le_mul_left (10 ^ digits.length) (Nat.succ_le_of_lt positive)
  rw [Text.digitsValue_cons]
  omega

/-- Of two runs without leading zeros the shorter one is the smaller number. -/
theorem digitsValue_lt_of_length_lt {x y : Text} (xDigits : ∀ c ∈ x, c.isDigit = true)
    (yDigits : ∀ c ∈ y, c.isDigit = true) (shorter : x.length < y.length)
    (leading : y.head? ≠ some '0') : Text.digitsValue x < Text.digitsValue y := by
  cases y with
  | nil => simp at shorter
  | cons d ys =>
      have nonzero : d ≠ '0' := by simpa using leading
      calc
        Text.digitsValue x < 10 ^ x.length := Text.digitsValue_lt xDigits
        _ ≤ 10 ^ ys.length := Nat.pow_le_pow_right (by decide) (Nat.le_of_lt_succ shorter)
        _ ≤ Text.digitsValue (d :: ys) := pow_le_digitsValue (yDigits d List.mem_cons_self) nonzero

theorem head?_dropZeros (digits : Text) : (digits.dropWhile (· = '0')).head? ≠ some '0' := by
  intro zero
  have kept := List.head?_dropWhile_not (· = '0') digits
  simp [zero] at kept

/-- Runs of digits are in the order of the numbers they denote, whatever their length. -/
theorem compareDigits_eq_compare_value {x y : Chunk} (xDigits : ∀ c ∈ x, c.isDigit = true)
    (yDigits : ∀ c ∈ y, c.isDigit = true) :
    compareDigits x y = Ord.compare (Text.digitsValue x) (Text.digitsValue y) := by
  rw [← digitsValue_dropZeros x, ← digitsValue_dropZeros y, compareDigits, compareLength_eq_compare]
  have xsDigits : ∀ c ∈ x.dropWhile (· = '0'), c.isDigit = true :=
    fun c member => xDigits c ((List.dropWhile_sublist _).subset member)
  have ysDigits : ∀ c ∈ y.dropWhile (· = '0'), c.isDigit = true :=
    fun c member => yDigits c ((List.dropWhile_sublist _).subset member)
  rcases Nat.lt_trichotomy (x.dropWhile (· = '0')).length (y.dropWhile (· = '0')).length with
    shorter | same | longer
  · have smaller := digitsValue_lt_of_length_lt xsDigits ysDigits shorter (head?_dropZeros y)
    rw [Nat.compare_eq_lt.mpr shorter, Nat.compare_eq_lt.mpr smaller]
    rfl
  · rw [Nat.compare_eq_eq.mpr same, compare_eq_compare_value xsDigits ysDigits same]
    rfl
  · have smaller := digitsValue_lt_of_length_lt ysDigits xsDigits longer (head?_dropZeros x)
    rw [Nat.compare_eq_gt.mpr longer, Nat.compare_eq_gt.mpr smaller]
    rfl

/-! ## Steps -/

theorem isDigit_of_isNumber {x : Chunk} (number : isNumber x = true) :
    ∀ c ∈ x, c.isDigit = true := by
  rw [isNumber, Bool.and_eq_true] at number
  exact List.all_eq_true.mp number.2

/-- The order of numbers: by value, then by spelling. -/
def compareNumber : Chunk → Chunk → Ordering :=
  compareLex (compareOn Text.digitsValue) Text.compare

theorem compareChunk_of_isNumber {x y : Chunk} (xNumber : isNumber x = true)
    (yNumber : isNumber y = true) : compareChunk x y = compareNumber x y := by
  have byValue := compareDigits_eq_compare_value (isDigit_of_isNumber xNumber)
    (isDigit_of_isNumber yNumber)
  simp only [compareChunk, xNumber, yNumber, byValue]
  rfl

instance : TransCmp compareNumber :=
  inferInstanceAs (TransCmp (compareLex (compareOn Text.digitsValue) Text.compare))

instance : TransCmp compareChunk where
  eq_swap {x y} := by
    cases xKind : isNumber x <;> cases yKind : isNumber y
    · simpa only [compareChunk, xKind, yKind] using OrientedCmp.eq_swap
    · simp [compareChunk, xKind, yKind]
    · simp [compareChunk, xKind, yKind]
    · rw [compareChunk_of_isNumber xKind yKind, compareChunk_of_isNumber yKind xKind]
      exact OrientedCmp.eq_swap
  isLE_trans {x y z} first second := by
    -- Numbers and texts are two blocks: only the two unmixed cases compare anything.
    cases xKind : isNumber x <;> cases yKind : isNumber y <;> cases zKind : isNumber z
    case false.false.false =>
      simp only [compareChunk, xKind, yKind, zKind] at first second ⊢
      exact TransCmp.isLE_trans first second
    case true.true.true =>
      rw [compareChunk_of_isNumber xKind yKind] at first
      rw [compareChunk_of_isNumber yKind zKind] at second
      rw [compareChunk_of_isNumber xKind zKind]
      exact TransCmp.isLE_trans first second
    all_goals simp_all [compareChunk]

instance : LawfulEqCmp compareChunk where
  compare_self := ReflCmp.compare_self
  eq_of_compare {x y} tie := by
    cases xKind : isNumber x <;> cases yKind : isNumber y
    · simp only [compareChunk, xKind, yKind] at tie
      exact LawfulEqCmp.eq_of_compare tie
    · simp [compareChunk, xKind, yKind] at tie
    · simp [compareChunk, xKind, yKind] at tie
    · rw [compareChunk_of_isNumber xKind yKind] at tie
      have spelling := (compareLex_eq_eq.mp tie).2
      exact LawfulEqCmp.eq_of_compare spelling

theorem isNumber_of_digits {x : Chunk} (nonempty : x ≠ []) (digits : ∀ c ∈ x, c.isDigit = true) :
    isNumber x = true := by
  rw [isNumber, Bool.and_eq_true, Bool.not_eq_true', List.isEmpty_eq_false_iff]
  exact ⟨nonempty, List.all_eq_true.mpr digits⟩

/-- Runs of digits of any length, leading zeros or not, are in the order of the numbers that they
denote. Steps are too, and spellings of one number are in the order of texts, so that a number ties
only with itself. -/
theorem compareChunk_numerals {x y : Chunk} (xSome : x ≠ []) (xDigits : ∀ c ∈ x, c.isDigit = true)
    (ySome : y ≠ []) (yDigits : ∀ c ∈ y, c.isDigit = true) :
    ∃ m n, Text.Denotes x m ∧ Text.Denotes y n ∧
      compareDigits x y = Ord.compare m n ∧
      compareChunk x y = (Ord.compare m n).then (Text.compare x y) ∧
      (compareChunk x y = .eq ↔ x = y) := by
  have xNumber := isNumber_of_digits xSome xDigits
  have yNumber := isNumber_of_digits ySome yDigits
  refine ⟨Text.digitsValue x, Text.digitsValue y, Text.denotes_digitsValue xSome xDigits,
    Text.denotes_digitsValue ySome yDigits, compareDigits_eq_compare_value xDigits yDigits, ?_,
    LawfulEqCmp.compare_eq_iff_eq⟩
  rw [compareChunk_of_isNumber xNumber yNumber]
  rfl

/-- A number of 65 bits comes after one of 64, and seven after its spelling with zeros. -/
theorem compareChunk_long_numerals :
    let long := "0018446744073709551616".toList
    let short := "18446744073709551615".toList
    Text.Denotes long (2 ^ 64) ∧ Text.Denotes short (2 ^ 64 - 1) ∧
      compareDigits long short = .gt ∧ compareChunk long short = .gt ∧
      compareDigits "7".toList "007".toList = .eq ∧ compareChunk "7".toList "007".toList = .gt := by
  intro long short
  rcases compareChunk_numerals (x := long) (y := short) (by decide)
    (isDigit_of_isNumber (by decide)) (by decide) (isDigit_of_isNumber (by decide)) with
    ⟨m, n, longDenotes, shortDenotes, byValue, ordered, -⟩
  have longValue : m = 2 ^ 64 := longDenotes.value_eq.symm.trans (by decide +kernel)
  have shortValue : n = 2 ^ 64 - 1 := shortDenotes.value_eq.symm.trans (by decide +kernel)
  subst longValue shortValue
  rcases compareChunk_numerals (x := "7".toList) (y := "007".toList) (by decide)
    (isDigit_of_isNumber (by decide)) (by decide) (isDigit_of_isNumber (by decide)) with
    ⟨m, n, sevenDenotes, paddedDenotes, sameValue, spelled, -⟩
  have seven : m = 7 := sevenDenotes.value_eq.symm.trans (by decide)
  have padded : n = 7 := paddedDenotes.value_eq.symm.trans (by decide)
  subst seven padded
  exact ⟨longDenotes, shortDenotes, byValue, ordered, sameValue, spelled⟩

/-- Decimal numerals are in the order of their numbers. -/
theorem compareChunk_ofNat_lt {m n : Nat} (less : m < n) :
    compareChunk (Text.ofNat m) (Text.ofNat n) = .lt := by
  have number (k : Nat) : isNumber (Text.ofNat k) = true :=
    isNumber_of_digits (Text.ofNat_ne_nil k) fun c => Text.isDigit_of_mem_ofNat
  rw [compareChunk_of_isNumber (number m) (number n), compareNumber, compareLex, compareOn,
    Text.digitsValue_ofNat, Text.digitsValue_ofNat, Nat.compare_eq_lt.mpr less]
  rfl

end Reference

end StyleCatalog
