import StyleCatalog.Proofs.Reference.Chunks
import StyleCatalog.Proofs.Reference.Order

/-! # The order of references

References are compared through their chunk lists, so their order inherits the laws of that order.
It is a preorder rather than an order: `Forms - Buttons` and `forms.buttons` are two spellings of
one place.
-/

namespace StyleCatalog.Reference

open Std

instance (weights : Weights) : TransCmp (compare weights) where
  eq_swap := compareBelow_swap weights [] _ _
  isLE_trans := compareBelow_isLE_trans weights

theorem compare_eq_eq_iff {weights : Weights} {a b : Text} :
    compare weights a b = .eq ↔ normalize a = normalize b := by
  rw [compare, compareChunks_eq_eq_iff, chunks_eq_iff]

theorem compare_lt_of_isPrefix {weights : Weights} {a b : Text} (above : chunks a <+: chunks b)
    (different : chunks a ≠ chunks b) : compare weights a b = .lt := by
  rcases above with ⟨below, steps⟩
  cases below with
  | nil =>
      rw [List.append_nil] at steps
      exact absurd steps different
  | cons step rest =>
      rw [compare, ← steps]
      exact compareBelow_self_append_cons weights [] (chunks a) step rest

theorem compare_lt_of_isLE_of_isLE {weights : Weights} {a b c : Text}
    (first : (compare weights a b).isLE) (second : (compare weights b c).isLE)
    (strict : compare weights a b = .lt ∨ compare weights b c = .lt) :
    compare weights a c = .lt := by
  rcases strict with less | less
  · exact TransCmp.lt_of_lt_of_isLE less second
  · exact TransCmp.lt_of_isLE_of_lt first less

/-- Whatever the weights, references are totally preordered, strictly where one of two steps is
strict. The ties are the spellings of one normalized reference, and a reference comes before all
those below it. -/
theorem compare_totally_preorders (weights : Weights) (a b c : Text) :
    compare weights a b = (compare weights b a).swap ∧
      ((compare weights a b).isLE → (compare weights b c).isLE →
        (compare weights a c).isLE ∧
          (compare weights a b = .lt ∨ compare weights b c = .lt → compare weights a c = .lt)) ∧
      (compare weights a b = .eq ↔ normalize a = normalize b) ∧
      (chunks a <+: chunks b → chunks a ≠ chunks b → compare weights a b = .lt) := by
  refine ⟨OrientedCmp.eq_swap, ?_, compare_eq_eq_iff, compare_lt_of_isPrefix⟩
  intro first second
  exact ⟨TransCmp.isLE_trans first second, compare_lt_of_isLE_of_isLE first second⟩

/-- A weight moves the number ten before the number nine, and both stay before text. -/
theorem compare_weighted_numbers :
    let weights := Weights.ofSections
      [{ reference := "A - 10".toList, weight := ⟨-1, by decide, by decide⟩ }]
    compare weights "a.10".toList "A - 9".toList = .lt ∧
      compare weights "a.10".toList "a.b".toList = .lt ∧
      compare weights "a".toList "A - 9".toList = .lt := by
  intro weights
  have tenNine : compare weights "a.10".toList "A - 9".toList = .lt := by decide +kernel
  have nineText : (compare weights "A - 9".toList "a.b".toList).isLE := by decide +kernel
  have laws := compare_totally_preorders weights "a.10".toList "A - 9".toList "a.b".toList
  have branch := compare_totally_preorders weights "a".toList "A - 9".toList "a.b".toList
  refine ⟨tenNine, (laws.2.1 (by rw [tenNine]; rfl) nineText).2 (.inl tenNine), ?_⟩
  exact branch.2.2.2 (by decide +kernel) (by decide +kernel)

end StyleCatalog.Reference
