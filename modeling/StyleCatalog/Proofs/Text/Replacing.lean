import Mathlib.Data.List.Infix
import StyleCatalog.Proofs.Text.Pieces

/-! # Replacing a pattern

The occurrences of a pattern are replaced on both sides of a character that is not in it without
regard to the other side. A change of characters that spares those of the pattern can be made before
or after, and texts that differ by such a change are told apart by what replacing leaves of them.
-/

namespace StyleCatalog.Text

/-! ## The two sides of a character -/

theorem isPrefix_append_cons_iff {c : Char} {pattern : Text} (absent : c ∉ pattern) (t u : Text) :
    pattern <+: t ++ c :: u ↔ pattern <+: t := by
  constructor
  · intro found
    rcases List.prefix_or_prefix_of_prefix found (List.prefix_append t (c :: u)) with
      within | ⟨more, rfl⟩
    · exact within
    · -- The pattern would go on with the character.
      rw [List.prefix_append_right_inj] at found
      cases more with
      | nil => exact ⟨[], by simp⟩
      | cons d rest =>
          have same : d = c := (List.cons_prefix_cons.mp found).1
          exact absurd (by simp [same]) absent
  · intro within
    exact within.trans (List.prefix_append t _)

theorem replaceFrom_append_cons {first c : Char} {more : Text} (absent : c ∉ first :: more)
    (replacement : Text) {skip : Nat} {t : Text} (room : skip ≤ t.length) (u : Text) :
    replaceFrom first more replacement skip (t ++ c :: u) =
      replaceFrom first more replacement skip t ++ c :: replaceFrom first more replacement 0 u := by
  induction t generalizing skip with
  | nil =>
      have different : first ≠ c := fun same => absent (by simp [same])
      obtain rfl : skip = 0 := Nat.le_zero.mp room
      exact replaceAll_cons_of_ne more replacement u different
  | cons d rest induction =>
      cases skip with
      | succ skip =>
          rw [List.cons_append, replaceFrom, replaceFrom, induction (Nat.le_of_succ_le_succ room)]
      | zero =>
          have here := isPrefix_append_cons_iff absent (d :: rest) u
          rw [List.cons_append] at here ⊢
          rw [replaceFrom, replaceFrom]
          simp only [List.isPrefixOf_iff_prefix, here]
          split
          · rename_i found
            have longer : more.length ≤ rest.length := Nat.le_of_succ_le_succ found.length_le
            rw [induction longer, List.append_assoc]
          · rw [induction (Nat.zero_le _), List.cons_append]

theorem replaceAll_append_cons {c : Char} {pattern : Text} (absent : c ∉ pattern)
    (replacement t u : Text) :
    replaceAll pattern replacement (t ++ c :: u) =
      replaceAll pattern replacement t ++ c :: replaceAll pattern replacement u := by
  cases pattern with
  | nil => rfl
  | cons first more => exact replaceFrom_append_cons absent replacement (Nat.zero_le _) u

theorem splitAtChar_append_cons (separator : Char) (t u : Text) :
    splitAtChar separator (t ++ separator :: u) =
      splitAtChar separator t ++ splitAtChar separator u := by
  simp only [splitAtChar_eq_splitOn, List.splitOn]
  exact List.splitOnP_append_cons t u (beq_self_eq_true separator)

/-! ## Changes that spare the pattern -/

/-- No other character becomes one of the pattern, and those of the pattern stay. -/
def Spares (change : Char → Char) (pattern : Text) : Prop :=
  ∀ mark ∈ pattern, ∀ c, change c = mark ↔ c = mark

section Sparing

variable {change : Char → Char} {first : Char} {more replacement : Text}

theorem Spares.isPrefix_map_iff {pattern : Text} (spares : Spares change pattern) (t : Text) :
    pattern <+: t.map change ↔ pattern <+: t := by
  induction pattern generalizing t with
  | nil => simp
  | cons mark rest induction =>
      have later : Spares change rest := fun other member =>
        spares other (List.mem_cons_of_mem mark member)
      cases t with
      | nil => rfl
      | cons c others =>
          rw [List.map_cons, List.cons_prefix_cons, List.cons_prefix_cons, induction later,
            eq_comm, spares mark List.mem_cons_self c, eq_comm]

theorem Spares.map_replaceFrom (spares : Spares change (first :: more))
    (kept : replacement.map change = replacement) (skip : Nat) (t : Text) :
    (replaceFrom first more replacement skip t).map change =
      replaceFrom first more replacement skip (t.map change) := by
  induction t generalizing skip with
  | nil => rfl
  | cons c rest induction =>
      cases skip with
      | succ skip => rw [replaceFrom, induction, List.map_cons, replaceFrom]
      | zero =>
          have here := spares.isPrefix_map_iff (c :: rest)
          rw [List.map_cons] at here ⊢
          rw [replaceFrom, replaceFrom]
          simp only [List.isPrefixOf_iff_prefix, here]
          split
          · rw [List.map_append, kept, induction]
          · rw [List.map_cons, induction]

/-- Texts that a sparing change makes equal have replacements of one length. -/
theorem Spares.length_replaceAll (spares : Spares change (first :: more))
    (kept : replacement.map change = replacement) {t u : Text}
    (alike : t.map change = u.map change) :
    (replaceAll (first :: more) replacement t).length =
      (replaceAll (first :: more) replacement u).length := by
  have changed := spares.map_replaceFrom kept 0 t
  rw [alike, ← spares.map_replaceFrom kept] at changed
  have lengths := congrArg List.length changed
  rw [List.length_map, List.length_map] at lengths
  exact lengths

theorem Spares.eq_of_replaceFrom_eq (spares : Spares change (first :: more)) {skip : Nat}
    {t u : Text} (alike : t.map change = u.map change) (passed : t.take skip = u.take skip)
    (same : replaceFrom first more replacement skip t = replaceFrom first more replacement skip u) :
    t = u := by
  induction t generalizing skip u with
  | nil => exact (List.map_eq_nil_iff.mp alike.symm).symm
  | cons c rest induction =>
      cases u with
      | nil => cases alike
      | cons d others =>
          have laterAlike : rest.map change = others.map change := (List.cons.inj alike).2
          cases skip with
          | succ skip =>
              rw [List.take_succ_cons, List.take_succ_cons, List.cons.injEq] at passed
              rw [passed.1, induction laterAlike passed.2 same]
          | zero =>
              have here : first :: more <+: c :: rest ↔ first :: more <+: d :: others := by
                rw [← spares.isPrefix_map_iff, alike, spares.isPrefix_map_iff]
              rw [replaceFrom, replaceFrom] at same
              simp only [List.isPrefixOf_iff_prefix, here] at same
              split at same
              · rename_i found
                rcases List.cons_prefix_cons.mp (here.mpr found) with ⟨rfl, within⟩
                rcases List.cons_prefix_cons.mp found with ⟨rfl, otherWithin⟩
                have taken : rest.take more.length = others.take more.length := by
                  rw [← List.prefix_iff_eq_take.mp within, ← List.prefix_iff_eq_take.mp otherWithin]
                rw [induction laterAlike taken (List.append_cancel_left same)]
              · obtain ⟨rfl, later⟩ := List.cons.inj same
                rw [induction laterAlike rfl later]

end Sparing

end StyleCatalog.Text
