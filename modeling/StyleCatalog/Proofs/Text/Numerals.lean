import Mathlib.Data.List.Induction
import StyleCatalog.Proofs.Text.Pieces
import StyleCatalog.Proofs.Text.Trimming

/-! # Numerals

A run of decimal digits denotes a number, whatever its length and however many zeros it begins
with. `Denotes` says which one, digit by digit, and `denotes_iff` that every run of digits denotes
the number that `digitsValue` computes, and nothing else denotes any.
-/

namespace StyleCatalog.Text

/-- A run of decimal digits and the number that it denotes. A digit put behind a run counts once,
and what the run denotes counts ten times. -/
inductive Denotes : Text → Nat → Prop
  | digit {c : Char} (digit : c.isDigit = true) : Denotes [c] (digitValue c)
  | append {digits : Text} {n : Nat} {c : Char} (before : Denotes digits n)
      (digit : c.isDigit = true) : Denotes (digits ++ [c]) (10 * n + digitValue c)

theorem digitsValue_concat (digits : Text) (c : Char) :
    digitsValue (digits ++ [c]) = 10 * digitsValue digits + digitValue c := by
  rw [digitsValue, List.foldl_append, digitsValue]
  rfl

theorem digitsValue_singleton (c : Char) : digitsValue [c] = digitValue c := by
  rw [← List.nil_append [c], digitsValue_concat, digitsValue]
  simp

theorem denotes_digitsValue {digits : Text} (nonempty : digits ≠ [])
    (all : ∀ c ∈ digits, c.isDigit = true) : Denotes digits (digitsValue digits) := by
  induction digits using List.reverseRecOn with
  | nil => exact absurd rfl nonempty
  | append_singleton before c induction =>
      rw [List.forall_mem_append, List.forall_mem_singleton] at all
      by_cases first : before = []
      · subst first
        rw [List.nil_append, digitsValue_singleton]
        exact .digit all.2
      · rw [digitsValue_concat]
        exact .append (induction first all.1) all.2

namespace Denotes

variable {digits : Text} {n : Nat}

theorem ne_nil (denotes : Denotes digits n) : digits ≠ [] := by
  cases denotes <;> simp

theorem isDigit (denotes : Denotes digits n) : ∀ c ∈ digits, c.isDigit = true := by
  induction denotes with
  | digit digit => exact List.forall_mem_singleton.mpr digit
  | append before digit induction =>
      exact List.forall_mem_append.mpr ⟨induction, List.forall_mem_singleton.mpr digit⟩

theorem value_eq (denotes : Denotes digits n) : digitsValue digits = n := by
  induction denotes with
  | digit digit => exact digitsValue_singleton _
  | append before digit induction => rw [digitsValue_concat, induction]

end Denotes

/-- The runs of digits denote the numbers that they are read as. -/
theorem denotes_iff {digits : Text} {n : Nat} :
    Denotes digits n ↔
      digits ≠ [] ∧ (∀ c ∈ digits, c.isDigit = true) ∧ digitsValue digits = n := by
  constructor
  · intro denotes
    exact ⟨denotes.ne_nil, denotes.isDigit, denotes.value_eq⟩
  · rintro ⟨nonempty, all, rfl⟩
    exact denotes_digitsValue nonempty all

/-! ## Decimal forms -/

theorem denotes_ofNat (n : Nat) : Denotes (ofNat n) n :=
  denotes_iff.mpr ⟨ofNat_ne_nil n, fun _ => isDigit_of_mem_ofNat, digitsValue_ofNat n⟩

theorem isBlank_of_isDigit {c : Char} (digit : c.isDigit = true) : isBlank c = false := by
  have code := toNat_of_isDigit digit
  have outside : ∀ range ∈ whiteSpaceRanges, c.toNat < range.1 ∨ range.2 < c.toNat := by
    simp only [whiteSpaceRanges, List.forall_mem_cons, List.not_mem_nil, false_implies,
      implies_true, and_true]
    omega
  rw [isBlank, inRanges, List.any_eq_false]
  intro range member inside
  have bounds : range.1 ≤ c.toNat ∧ c.toNat ≤ range.2 := by simpa using inside
  have apart := outside range member
  omega

theorem ofInt_ne_nil (n : Int) : ofInt n ≠ [] := by
  cases n with
  | ofNat k => exact ofNat_ne_nil k
  | negSucc k => exact List.cons_ne_nil _ _

theorem not_blank_of_mem_ofInt {n : Int} {c : Char} (member : c ∈ ofInt n) :
    isBlank c = false := by
  cases n with
  | ofNat k => exact isBlank_of_isDigit (isDigit_of_mem_ofNat member)
  | negSucc k =>
      rcases List.mem_cons.mp member with rfl | digit
      · decide
      · exact isBlank_of_isDigit (isDigit_of_mem_ofNat digit)

theorem trim_ofInt (n : Int) : (ofInt n).trim = ofInt n :=
  trim_of_forall_not_blank fun _ => not_blank_of_mem_ofInt

end StyleCatalog.Text
