import StyleCatalog.Proofs.Reference.Hierarchy

/-! # One step of the walk

The walk knows only the counters and the steps of the last section. It can count siblings because
in display order a branch is contiguous and begins with its node: between two neighbours of the
sorted list lies no other place. From that, `nextPath_ranks` says that the counters move from the
ranks of one place to the ranks of the next.
-/

namespace StyleCatalog

open Std Reference

/-! ## Shared steps -/

theorem sharedLength_append_append {α : Type} [DecidableEq α] (shared a b : List α) :
    sharedLength (shared ++ a) (shared ++ b) = shared.length + sharedLength a b := by
  induction shared with
  | nil => simp
  | cons x rest induction =>
      simp only [List.cons_append, sharedLength, if_true, induction, List.length_cons]
      omega

theorem sharedLength_append_left {α : Type} [DecidableEq α] (shared a : List α) :
    sharedLength (shared ++ a) shared = shared.length := by
  have split := sharedLength_append_append shared a []
  rw [List.append_nil] at split
  cases a <;> simpa [sharedLength] using split

theorem sharedLength_append_cons_cons {α : Type} [DecidableEq α] {x y : α} (different : x ≠ y)
    (shared xs ys : List α) :
    sharedLength (shared ++ x :: xs) (shared ++ y :: ys) = shared.length := by
  rw [sharedLength_append_append, sharedLength, if_neg different, Nat.add_zero]

theorem sharedLength_map {α β : Type} [DecidableEq α] [DecidableEq β] {transform : α → β}
    (injective : Function.Injective transform) (a b : List α) :
    sharedLength (a.map transform) (b.map transform) = sharedLength a b := by
  induction a generalizing b with
  | nil => cases b <;> rfl
  | cons x xs induction =>
      cases b with
      | nil => rfl
      | cons y ys => simp only [List.map_cons, sharedLength, injective.eq_iff, induction]

theorem sharedLength_le_right {α : Type} [DecidableEq α] (a b : List α) :
    sharedLength a b ≤ b.length := by
  induction a generalizing b with
  | nil => exact Nat.zero_le _
  | cons x xs induction =>
      cases b with
      | nil => exact Nat.zero_le _
      | cons y ys =>
          rw [sharedLength]
          split
          · exact Nat.succ_le_succ (induction ys)
          · exact Nat.zero_le _

/-- All steps are shared exactly if the other list begins with them. -/
theorem length_le_sharedLength_iff {α : Type} [DecidableEq α] {a b : List α} :
    a.length ≤ sharedLength a b ↔ a <+: b := by
  induction a generalizing b with
  | nil => simp
  | cons x xs induction =>
      cases b with
      | nil => simp [sharedLength]
      | cons y ys =>
          rw [sharedLength, List.cons_prefix_cons, ← induction]
          by_cases same : x = y <;> simp [same]

namespace Hierarchy

/-- No place lies strictly between two chunk lists. -/
def Adjacent (hierarchy : Hierarchy) (previous next : List Chunk) : Prop :=
  ∀ place ∈ hierarchy.places,
    (compareChunks hierarchy.weights place previous).isLE ∨
      (compareChunks hierarchy.weights next place).isLE

/-- A node that begins after `previous` has no child before the one that leads to the next place. -/
theorem stepsBefore_eq_empty {hierarchy : Hierarchy} {previous above below : List Chunk}
    {step : Chunk} (adjacent : hierarchy.Adjacent previous (above ++ step :: below))
    (beyond : ∀ x xs, compareChunks hierarchy.weights previous (above ++ x :: xs) = .lt) :
    hierarchy.stepsBefore above step = ∅ := by
  rw [Finset.eq_empty_iff_forall_notMem]
  intro other before
  rcases mem_stepsBefore.mp before with ⟨⟨rest, member⟩, less⟩
  rw [List.append_assoc, List.singleton_append] at member
  rcases adjacent _ member with early | late
  · exact OrientedCmp.not_isLE_of_lt (beyond other rest) early
  · exact OrientedCmp.not_isLE_of_lt less (compareSiblings_isLE_of_compareChunks late)

theorem ranksBelow_eq_replicate {hierarchy : Hierarchy} {previous above below : List Chunk}
    (adjacent : hierarchy.Adjacent previous (above ++ below))
    (beyond : ∀ x xs, compareChunks hierarchy.weights previous (above ++ x :: xs) = .lt) :
    hierarchy.ranksBelow above below = List.replicate below.length 1 := by
  induction below generalizing above with
  | nil => rfl
  | cons step rest induction =>
      have first : hierarchy.rank above step = 1 := by
        rw [rank, stepsBefore_eq_empty adjacent beyond, Finset.card_empty]
      have others : hierarchy.ranksBelow (above ++ [step]) rest = List.replicate rest.length 1 := by
        apply induction
        · simpa using adjacent
        · intro x xs
          simpa using beyond step (x :: xs)
      rw [ranksBelow, first, others, List.length_cons, List.replicate_succ]

/-- Where the walk leaves a branch for the next one, it has passed one more sibling. -/
theorem rank_eq_rank_add_one {hierarchy : Hierarchy} {shared xs ys : List Chunk} {x y : Chunk}
    (member : shared ++ x :: xs ∈ hierarchy.places)
    (adjacent : hierarchy.Adjacent (shared ++ x :: xs) (shared ++ y :: ys))
    (less : compareSiblings hierarchy.weights shared x y = .lt) :
    hierarchy.rank shared y = hierarchy.rank shared x + 1 := by
  have grown : hierarchy.stepsBefore shared y = insert x (hierarchy.stepsBefore shared x) := by
    ext other
    rw [Finset.mem_insert]
    constructor
    · intro before
      rcases mem_stepsBefore.mp before with ⟨node, otherLess⟩
      have ⟨rest, place⟩ := node
      rw [List.append_assoc, List.singleton_append] at place
      rcases adjacent _ place with early | late
      · have order := compareSiblings_isLE_of_compareChunks early
        rcases Ordering.isLE_iff_eq_lt_or_eq_eq.mp order with earlier | same
        · exact .inr (mem_stepsBefore.mpr ⟨node, earlier⟩)
        · exact .inl (compareSiblings_eq_eq_iff.mp same)
      · have order := compareSiblings_isLE_of_compareChunks late
        exact absurd order (OrientedCmp.not_isLE_of_lt otherLess)
    · rintro (rfl | before)
      · exact mem_stepsBefore.mpr ⟨(hasNode_of_mem member).child.1, less⟩
      · rcases mem_stepsBefore.mp before with ⟨node, earlier⟩
        exact mem_stepsBefore.mpr ⟨node, TransCmp.lt_trans earlier less⟩
  rw [rank, rank, grown, Finset.card_insert_of_notMem (hierarchy.notMem_stepsBefore_self shared x)]

/-! ## Counters -/

theorem nextPath_append (kept rest : List Nat) (more : Nat) :
    Numbering.nextPath (kept ++ rest) kept.length (kept.length + (more + 1)) =
      kept ++ (rest.headD 0 + 1) :: List.replicate more 1 := by
  have counter : (kept ++ rest).getD kept.length 0 = rest.headD 0 := by
    cases rest <;> simp
  have opened : kept.length + (more + 1) - (kept ++ [rest.headD 0 + 1]).length = more := by
    rw [List.length_append, List.length_singleton]
    omega
  simp only [Numbering.nextPath, List.take_left, counter, opened]
  simp

theorem nextPath_ranks_of_below {hierarchy : Hierarchy} {previous ys : List Chunk} {y : Chunk}
    (adjacent : hierarchy.Adjacent previous (previous ++ y :: ys)) :
    Numbering.nextPath (hierarchy.ranks previous) previous.length (previous ++ y :: ys).length =
      hierarchy.ranks (previous ++ y :: ys) := by
  have opened : hierarchy.ranksBelow previous (y :: ys) = List.replicate (ys.length + 1) 1 :=
    ranksBelow_eq_replicate adjacent (compareBelow_self_append_cons hierarchy.weights [] previous)
  have moved := nextPath_append (hierarchy.ranks previous) [] ys.length
  rw [List.append_nil, length_ranks] at moved
  rw [List.length_append, List.length_cons, moved, ranks_append, opened]
  rfl

theorem nextPath_ranks_of_leaving {hierarchy : Hierarchy} {shared xs ys : List Chunk} {x y : Chunk}
    (member : shared ++ x :: xs ∈ hierarchy.places)
    (adjacent : hierarchy.Adjacent (shared ++ x :: xs) (shared ++ y :: ys))
    (less : compareSiblings hierarchy.weights shared x y = .lt) :
    Numbering.nextPath (hierarchy.ranks (shared ++ x :: xs)) shared.length
        (shared ++ y :: ys).length =
      hierarchy.ranks (shared ++ y :: ys) := by
  have below : hierarchy.ranksBelow (shared ++ [y]) ys = List.replicate ys.length 1 := by
    apply ranksBelow_eq_replicate
    · simpa using adjacent
    · intro z zs
      simpa using compareChunks_lt_of_compareSiblings less xs (z :: zs)
  have moved := nextPath_append (hierarchy.ranks shared)
    (hierarchy.ranksBelow shared (x :: xs)) ys.length
  rw [length_ranks] at moved
  rw [List.length_append, List.length_cons, ranks_append, moved, ranks_append]
  simp only [ranksBelow, List.headD_cons]
  rw [rank_eq_rank_add_one member adjacent less, below]

/-- Between neighbours the counters move from ranks to ranks. -/
theorem nextPath_ranks {hierarchy : Hierarchy} {previous next : List Chunk}
    (known : previous = [] ∨ previous ∈ hierarchy.places)
    (adjacent : hierarchy.Adjacent previous next)
    (less : compareChunks hierarchy.weights previous next = .lt) :
    sharedLength next previous < next.length ∧
      Numbering.nextPath (hierarchy.ranks previous) (sharedLength next previous) next.length =
        hierarchy.ranks next := by
  rcases exists_split_of_compareBelow_lt less with ⟨shared, y, ys, rfl, rfl | ⟨x, xs, rfl, left⟩⟩
  · rw [sharedLength_append_left]
    exact ⟨by simp, nextPath_ranks_of_below adjacent⟩
  · rw [List.nil_append] at left
    have member : shared ++ x :: xs ∈ hierarchy.places := by
      rcases known with empty | member
      · simp at empty
      · exact member
    have different : y ≠ x := by
      rintro rfl
      rw [compareSiblings_eq_eq_iff.mpr rfl] at left
      cases left
    rw [sharedLength_append_cons_cons different]
    exact ⟨by simp, nextPath_ranks_of_leaving member adjacent left⟩

end Hierarchy

end StyleCatalog
