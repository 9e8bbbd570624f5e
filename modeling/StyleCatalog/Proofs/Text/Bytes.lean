import Mathlib.Data.List.Infix
import StyleCatalog.Text.Basic

/-! # Texts as bytes

How many bytes a text takes in UTF-8.
-/

namespace StyleCatalog.Text

theorem byteLength_append (t u : Text) : byteLength (t ++ u) = byteLength t + byteLength u := by
  induction t with
  | nil => simp [byteLength]
  | cons c rest induction => rw [List.cons_append, byteLength, induction, byteLength, Nat.add_assoc]

theorem eq_nil_of_byteLength_eq_zero {t : Text} (empty : byteLength t = 0) : t = [] := by
  cases t with
  | nil => rfl
  | cons c rest =>
      have size := c.utf8Size_pos
      rw [byteLength] at empty
      omega

theorem byteLength_of_ascii {t : Text} (ascii : ∀ c ∈ t, c.toNat < 128) :
    byteLength t = t.length := by
  induction t with
  | nil => rfl
  | cons c rest induction =>
      rw [List.forall_mem_cons] at ascii
      have size : c.utf8Size = 1 := Char.utf8Size_eq_one_iff.mpr (Nat.le_of_lt_succ ascii.1)
      rw [byteLength, size, induction ascii.2, List.length_cons, Nat.add_comm]

/-- Of two beginnings of a text the one of fewer bytes begins the other. -/
theorem isPrefix_of_byteLength_le {a b t : Text} (first : a <+: t) (second : b <+: t)
    (shorter : byteLength a ≤ byteLength b) : a <+: b := by
  rcases List.prefix_or_prefix_of_prefix first second with within | ⟨more, rfl⟩
  · exact within
  · rw [byteLength_append] at shorter
    have none : more = [] := eq_nil_of_byteLength_eq_zero (by omega)
    exact ⟨[], by rw [none, List.append_nil, List.append_nil]⟩

end StyleCatalog.Text
