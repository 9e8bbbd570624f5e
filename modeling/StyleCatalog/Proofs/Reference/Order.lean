import StyleCatalog.Proofs.Reference.ChunkOrder

/-! # The order of chunk lists

Chunk lists are compared step by step, each pair of steps as siblings below the steps that both
lists share. Weights enter only there, so the comparison is a total order whatever the weights:
only equal lists tie, and a list comes before everything below it.
-/

namespace StyleCatalog.Reference

open Std

/-! ## Siblings -/

/-- The order of two steps right below the steps `above`: the lower weight first, then the steps
themselves. -/
def compareSiblings (weights : Weights) (above : List Chunk) (x y : Chunk) : Ordering :=
  ((weights.get (join (above ++ [x]))).compare (weights.get (join (above ++ [y])))).then
    (compareChunk x y)

theorem compareSiblings_eq_compareLex (weights : Weights) (above : List Chunk) :
    compareSiblings weights above =
      compareLex (compareOn fun step => (weights.get (join (above ++ [step]))).value)
        compareChunk := by
  funext x y
  rw [compareSiblings, Weight.compare_eq_compareOn]
  rfl

instance (weights : Weights) (above : List Chunk) : TransCmp (compareSiblings weights above) := by
  rw [compareSiblings_eq_compareLex]
  infer_instance

instance (weights : Weights) (above : List Chunk) :
    LawfulEqCmp (compareSiblings weights above) where
  compare_self := ReflCmp.compare_self
  eq_of_compare {x y} tie := by
    rw [compareSiblings_eq_compareLex] at tie
    exact LawfulEqCmp.eq_of_compare (compareLex_eq_eq.mp tie).2

theorem compareSiblings_eq_eq_iff {weights : Weights} {above : List Chunk} {x y : Chunk} :
    compareSiblings weights above x y = .eq ↔ x = y :=
  LawfulEqCmp.compare_eq_iff_eq

/-! ## Chunk lists -/

/-- The first steps decide, and the steps below them only if they are the same. -/
theorem compareBelow_cons_cons (weights : Weights) (above : List Chunk) (x y : Chunk)
    (xs ys : List Chunk) :
    compareBelow weights above (x :: xs) (y :: ys) =
      (compareSiblings weights above x y).then (compareBelow weights (above ++ [x]) xs ys) := by
  rw [compareBelow]
  by_cases same : x = y
  · rw [if_pos same, compareSiblings_eq_eq_iff.mpr same, same]
    rfl
  · have different : compareSiblings weights above x y ≠ .eq :=
      fun tie => same (compareSiblings_eq_eq_iff.mp tie)
    rw [if_neg same]
    change compareSiblings weights above x y = _
    cases order : compareSiblings weights above x y with
    | lt => rfl
    | eq => exact absurd order different
    | gt => rfl

theorem compareBelow_append_append (weights : Weights) (above shared a b : List Chunk) :
    compareBelow weights above (shared ++ a) (shared ++ b) =
      compareBelow weights (above ++ shared) a b := by
  induction shared generalizing above with
  | nil => simp
  | cons x rest induction => simp [compareBelow, induction]

/-- A list comes before those that go on below it. -/
theorem compareBelow_self_append_cons (weights : Weights) (above a : List Chunk) (x : Chunk)
    (xs : List Chunk) : compareBelow weights above a (a ++ x :: xs) = .lt := by
  have shared := compareBelow_append_append weights above a [] (x :: xs)
  rw [List.append_nil] at shared
  rw [shared, compareBelow]

theorem compareBelow_swap (weights : Weights) (above a b : List Chunk) :
    compareBelow weights above a b = (compareBelow weights above b a).swap := by
  induction a generalizing above b with
  | nil => cases b <;> rfl
  | cons x xs induction =>
      cases b with
      | nil => rfl
      | cons y ys =>
          rw [compareBelow_cons_cons, compareBelow_cons_cons, Ordering.swap_then,
            ← OrientedCmp.eq_swap]
          cases order : compareSiblings weights above x y with
          | lt => rfl
          | eq => rw [compareSiblings_eq_eq_iff.mp order, induction]
          | gt => rfl

theorem compareBelow_isLE_trans (weights : Weights) {above a b c : List Chunk}
    (first : (compareBelow weights above a b).isLE)
    (second : (compareBelow weights above b c).isLE) :
    (compareBelow weights above a c).isLE := by
  induction a generalizing above b c with
  | nil => cases c <;> rfl
  | cons x xs induction =>
      cases b with
      | nil => simp [compareBelow] at first
      | cons y ys =>
          cases c with
          | nil => simp [compareBelow] at second
          | cons z zs =>
              rw [compareBelow_cons_cons, Ordering.isLE_then_iff_or] at first second ⊢
              rcases first with less | ⟨same, first⟩
              · rcases second with later | ⟨same, -⟩
                · exact .inl (TransCmp.lt_trans less later)
                · exact .inl (compareSiblings_eq_eq_iff.mp same ▸ less)
              · cases compareSiblings_eq_eq_iff.mp same
                rcases second with later | ⟨same, second⟩
                · exact .inl later
                · exact .inr ⟨same, induction first second⟩

theorem eq_of_compareBelow_eq (weights : Weights) {above a b : List Chunk}
    (tie : compareBelow weights above a b = .eq) : a = b := by
  induction a generalizing above b with
  | nil =>
      cases b with
      | nil => rfl
      | cons y ys => simp [compareBelow] at tie
  | cons x xs induction =>
      cases b with
      | nil => simp [compareBelow] at tie
      | cons y ys =>
          rw [compareBelow_cons_cons, Ordering.then_eq_eq] at tie
          rw [compareSiblings_eq_eq_iff.mp tie.1, induction tie.2]

instance (weights : Weights) : TransCmp (compareChunks weights) where
  eq_swap := compareBelow_swap weights [] _ _
  isLE_trans := compareBelow_isLE_trans weights

instance (weights : Weights) : LawfulEqCmp (compareChunks weights) where
  compare_self := ReflCmp.compare_self
  eq_of_compare := eq_of_compareBelow_eq weights

theorem compareChunks_eq_eq_iff {weights : Weights} {a b : List Chunk} :
    compareChunks weights a b = .eq ↔ a = b :=
  LawfulEqCmp.compare_eq_iff_eq

theorem compareChunks_append_append (weights : Weights) (shared a b : List Chunk) :
    compareChunks weights (shared ++ a) (shared ++ b) = compareBelow weights shared a b := by
  rw [compareChunks, compareBelow_append_append, List.nil_append]

/-- Lists that go on below the same steps are as far apart as the next steps are. -/
theorem compareSiblings_isLE_of_compareChunks {weights : Weights} {shared xs ys : List Chunk}
    {x y : Chunk}
    (order : (compareChunks weights (shared ++ x :: xs) (shared ++ y :: ys)).isLE) :
    (compareSiblings weights shared x y).isLE := by
  rw [compareChunks_append_append, compareBelow_cons_cons] at order
  exact Ordering.isLE_left_of_isLE_then order

theorem compareChunks_lt_of_compareSiblings {weights : Weights} {shared : List Chunk} {x y : Chunk}
    (less : compareSiblings weights shared x y = .lt) (xs ys : List Chunk) :
    compareChunks weights (shared ++ x :: xs) (shared ++ y :: ys) = .lt := by
  rw [compareChunks_append_append, compareBelow_cons_cons, less]
  rfl

/-- One list comes before another either because it ends where the other goes on, or because of the
first steps in which they differ. -/
theorem exists_split_of_compareBelow_lt {weights : Weights} {above a b : List Chunk}
    (less : compareBelow weights above a b = .lt) :
    ∃ shared y ys, b = shared ++ y :: ys ∧
      (a = shared ∨ ∃ x xs, a = shared ++ x :: xs ∧
        compareSiblings weights (above ++ shared) x y = .lt) := by
  induction a generalizing above b with
  | nil =>
      cases b with
      | nil => simp [compareBelow] at less
      | cons y ys => exact ⟨[], y, ys, rfl, .inl rfl⟩
  | cons x xs induction =>
      cases b with
      | nil => simp [compareBelow] at less
      | cons y ys =>
          rw [compareBelow_cons_cons, Ordering.then_eq_lt] at less
          rcases less with before | ⟨same, below⟩
          · exact ⟨[], y, ys, rfl, .inr ⟨x, xs, rfl, by simpa using before⟩⟩
          · cases compareSiblings_eq_eq_iff.mp same
            rcases induction below with ⟨shared, z, zs, rfl, parts⟩
            refine ⟨x :: shared, z, zs, rfl, ?_⟩
            rcases parts with rfl | ⟨w, ws, rfl, before⟩
            · exact .inl rfl
            · exact .inr ⟨w, ws, rfl, by simpa using before⟩

end StyleCatalog.Reference
