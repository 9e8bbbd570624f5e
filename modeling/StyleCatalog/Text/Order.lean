import StyleCatalog.Text.Basic

/-! # The order of texts

`Text.compare` is a strict total order: `compare_eq_eq_iff` says that only equal texts tie,
`compare_swap` that the two directions agree, and `compare_lt_trans` that it is transitive.
-/

namespace StyleCatalog.Text

theorem compare_self (t : Text) : compare t t = .eq := by
  induction t with
  | nil => rfl
  | cons c rest induction => simp [compare, induction]

theorem compare_swap (a b : Text) : (compare a b).swap = compare b a := by
  induction a generalizing b with
  | nil => cases b <;> rfl
  | cons c as induction =>
    cases b with
    | nil => rfl
    | cons d bs =>
      simp only [compare]
      rcases Nat.lt_trichotomy c.toNat d.toNat with h | h | h
      · simp [h, Nat.lt_asymm h]
      · simp [h, induction]
      · simp [h, Nat.lt_asymm h]

theorem compare_eq_eq_iff {a b : Text} : compare a b = .eq ↔ a = b := by
  refine ⟨fun tie => ?_, fun same => same ▸ compare_self a⟩
  induction a generalizing b with
  | nil => cases b <;> simp_all [compare]
  | cons c as induction =>
    cases b with
    | nil => simp [compare] at tie
    | cons d bs =>
      simp only [compare] at tie
      rcases Nat.lt_trichotomy c.toNat d.toNat with h | h | h
      · simp [h] at tie
      · simp only [h, Nat.lt_irrefl, if_false] at tie
        rw [induction tie, Char.toNat_inj.mp h]
      · simp [h, Nat.lt_asymm h] at tie

theorem compare_gt_iff {a b : Text} : compare a b = .gt ↔ compare b a = .lt := by
  rw [← compare_swap a b]
  cases compare a b <;> simp

theorem compare_lt_trans {a b c : Text} (first : compare a b = .lt) (second : compare b c = .lt) :
    compare a c = .lt := by
  induction a generalizing b c with
  | nil =>
    cases c with
    | nil => cases b <;> simp [compare] at first second
    | cons => rfl
  | cons x as induction =>
    cases b with
    | nil => simp [compare] at first
    | cons y bs =>
      cases c with
      | nil => simp [compare] at second
      | cons z cs =>
        simp only [compare] at first second ⊢
        rcases Nat.lt_trichotomy x.toNat y.toNat with h | h | h <;>
          rcases Nat.lt_trichotomy y.toNat z.toNat with k | k | k
        · simp [Nat.lt_trans h k]
        · simp [← k, h]
        · simp [k, Nat.lt_asymm k] at second
        · simp [h, k]
        · simp only [h, k, Nat.lt_irrefl, if_false] at first second ⊢
          exact induction first second
        · simp [k, Nat.lt_asymm k] at second
        · simp [h, Nat.lt_asymm h] at first
        · simp [h, Nat.lt_asymm h] at first
        · simp [h, Nat.lt_asymm h] at first

end StyleCatalog.Text
