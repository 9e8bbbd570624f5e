import StyleCatalog.Json.Printer
import StyleCatalog.Json.Reader
import StyleCatalog.Proofs.Text.Numerals
import StyleCatalog.Proofs.Text.Pieces
import StyleCatalog.Proofs.Text.Trimming

/-! # JSON strings and integers

Each character of a string literal is read back from its escape, whatever the character is, and
every integer of 64 bits from its decimal form.
-/

namespace StyleCatalog.Json

/-! ## Strings -/

/-- A character is written as a letter behind a backslash, by its code, or as it is. -/
theorem escapeChar_cases (c : Char) :
    (∃ letter, escapeChar c = ['\\', letter] ∧ escaped? letter = some c) ∨
    (c.toNat < 0x20 ∧ escapeChar c =
      ['\\', 'u', '0', '0', hexDigit (c.toNat / 16), hexDigit (c.toNat % 16)]) ∨
    (c ≠ '"' ∧ c ≠ '\\' ∧ 0x20 ≤ c.toNat ∧ escapeChar c = [c]) := by
  by_cases short : c ∈ ['"', '\\', '\n', '\r', '\t', '\x08', '\x0c']
  · simp only [List.mem_cons, List.not_mem_nil, or_false] at short
    rcases short with rfl | rfl | rfl | rfl | rfl | rfl | rfl <;> exact .inl ⟨_, rfl, rfl⟩
  · simp only [List.mem_cons, List.not_mem_nil, or_false, not_or] at short
    by_cases control : c.toNat < 0x20
    · exact .inr (.inl ⟨control, by simp [escapeChar, short, control]⟩)
    · exact .inr (.inr ⟨short.1, short.2.1, by omega, by simp [escapeChar, short, control]⟩)

theorem hexCode?_hexDigit :
    ∀ n < 0x20, hexCode? '0' '0' (hexDigit (n / 16)) (hexDigit (n % 16)) = some n := by
  decide

theorem readString_escapeChar (c : Char) (t : Text) :
    readString (escapeChar c ++ t) = (readString t).map fun read => (c :: read.1, read.2) := by
  rcases escapeChar_cases c with ⟨letter, written, known⟩ | ⟨control, written⟩ |
    ⟨noQuote, noBackslash, noControl, written⟩
  · have noCode : letter ≠ 'u' := by
      rintro rfl
      cases known
    simp [written, readString, noCode, known]
  · have code := hexCode?_hexDigit c.toNat control
    have below : c.toNat < 0xD800 := by omega
    simp [written, readString, code, below, Char.ofNat_toNat]
  · simp [written, readString, noBackslash, Nat.not_lt.mpr noControl]

theorem readString_quoted (t rest : Text) :
    readString (t.flatMap escapeChar ++ '"' :: rest) = some (t, rest) := by
  induction t with
  | nil => rfl
  | cons c more induction =>
      rw [List.flatMap_cons, List.append_assoc, readString_escapeChar, induction]
      rfl

/-- No character at the start of the text continues a number. -/
def EndsNumber (rest : Text) : Prop :=
  ∀ c ∈ rest.head?, c.isDigit = false ∧ c ≠ '.' ∧ c ≠ 'e' ∧ c ≠ 'E'

/-- The integers that the reader keeps as such. -/
def FitsWord (n : Int) : Prop := -0x8000000000000000 ≤ n ∧ n ≤ 0xFFFFFFFFFFFFFFFF

theorem takeWhile_ofNat_append (n : Nat) {rest : Text} (ends : EndsNumber rest) :
    (Text.ofNat n ++ rest).takeWhile Char.isDigit = Text.ofNat n := by
  rw [List.takeWhile_append_of_pos fun c => Text.isDigit_of_mem_ofNat]
  cases rest with
  | nil => simp
  | cons c more => simp [(ends c rfl).1]

theorem dropWhile_ofNat_append (n : Nat) {rest : Text} (ends : EndsNumber rest) :
    (Text.ofNat n ++ rest).dropWhile Char.isDigit = rest := by
  rw [List.dropWhile_append_of_pos fun c => Text.isDigit_of_mem_ofNat,
    dropWhile_eq_self_iff_head?]
  intro c first
  exact (ends c first).1

/-- Only zero is written with a leading zero. -/
theorem length_le_one_of_leading_zero {n : Nat} {rest : Text} (zero : Text.ofNat n = '0' :: rest) :
    (Text.ofNat n).length ≤ 1 := by
  have digits : ∀ c ∈ rest, c.isDigit = true := by
    intro c member
    apply Text.isDigit_of_mem_ofNat (n := n)
    rw [zero]
    exact List.mem_cons_of_mem _ member
  have value : n = Text.digitsValue rest := by
    rw [← Text.digitsValue_ofNat n, zero, Text.digitsValue_cons]
    simp [Text.digitValue]
  have small : n < 10 ^ rest.length := by
    rw [value]
    exact Text.digitsValue_lt digits
  by_contra long
  have some : 0 < rest.length := by
    rw [zero, List.length_cons] at long
    omega
  have short := (Nat.length_toDigits_le_iff (by decide) some).mpr small
  have length : (Nat.toDigits 10 n).length = rest.length + 1 := by
    rw [← Text.ofNat, zero, List.length_cons]
  omega

theorem no_leading_zero (n : Nat) :
    (Text.startsWith ['0'] (Text.ofNat n) && decide (1 < (Text.ofNat n).length)) = false := by
  cases digits : Text.ofNat n with
  | nil => rfl
  | cons c rest =>
      by_cases zero : c = '0'
      · subst zero
        have short := length_le_one_of_leading_zero digits
        rw [digits] at short
        rw [decide_eq_false (Nat.not_lt.mpr short), Bool.and_false]
      · simp [Text.startsWith, List.isPrefixOf, Ne.symm zero]

theorem readFraction_of_endsNumber {rest : Text} (ends : EndsNumber rest) :
    readFraction rest = some ([], rest) := by
  rw [readFraction.eq_def]
  split
  · rename_i more
    exact absurd rfl (ends '.' rfl).2.1
  · rfl

theorem readExponent_of_endsNumber {rest : Text} (ends : EndsNumber rest) :
    readExponent rest = some ([], rest) := by
  cases rest with
  | nil => rfl
  | cons c more =>
      have letters := (ends c rfl).2.2
      simp [readExponent, letters.1, letters.2]

theorem readNumber_ofNat (n : Nat) {rest : Text} (ends : EndsNumber rest) :
    readNumber (Text.ofNat n ++ rest) = some (ofSpelling false (Text.ofNat n) [], rest) := by
  have noSign : Text.startsWith ['-'] (Text.ofNat n ++ rest) = false := by
    cases digits : Text.ofNat n with
    | nil => exact absurd digits (Text.ofNat_ne_nil n)
    | cons c more =>
        have digit : c.isDigit = true := Text.isDigit_of_mem_ofNat (digits ▸ List.mem_cons_self)
        have different : '-' ≠ c := by
          rintro rfl
          cases digit
        simp [Text.startsWith, List.isPrefixOf, different]
  simp [readNumber, noSign, takeWhile_ofNat_append n ends, dropWhile_ofNat_append n ends,
    no_leading_zero, Text.ofNat_ne_nil, readFraction_of_endsNumber ends,
    readExponent_of_endsNumber ends]

theorem readNumber_negative (n : Nat) {rest : Text} (ends : EndsNumber rest) :
    readNumber ('-' :: (Text.ofNat n ++ rest)) =
      some (ofSpelling true (Text.ofNat n) [], rest) := by
  have sign : Text.startsWith ['-'] ('-' :: (Text.ofNat n ++ rest)) = true := rfl
  simp [readNumber, sign, takeWhile_ofNat_append n ends, dropWhile_ofNat_append n ends,
    no_leading_zero, Text.ofNat_ne_nil, readFraction_of_endsNumber ends,
    readExponent_of_endsNumber ends]

theorem readNumber_ofInt {n : Int} (fits : FitsWord n) {rest : Text} (ends : EndsNumber rest) :
    readNumber (Text.ofInt n ++ rest) = some (.integer n, rest) := by
  obtain ⟨least, most⟩ := fits
  cases n with
  | ofNat k =>
      have bound : k ≤ 0xFFFFFFFFFFFFFFFF := by
        exact Int.ofNat_le.mp most
      change readNumber (Text.ofNat k ++ rest) = _
      rw [readNumber_ofNat k ends]
      simp [ofSpelling, Text.digitsValue_ofNat, bound]
  | negSucc k =>
      have bound : k + 1 ≤ 0x8000000000000000 := by omega
      change readNumber ('-' :: (Text.ofNat (k + 1) ++ rest)) = _
      rw [readNumber_negative (k + 1) ends]
      simp [ofSpelling, Text.digitsValue_ofNat, bound, Int.negSucc_eq]

end StyleCatalog.Json
