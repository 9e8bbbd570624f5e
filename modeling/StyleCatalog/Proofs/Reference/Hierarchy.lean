import Mathlib.Data.Finset.Card
import StyleCatalog.Proofs.Reference.Sorting

/-! # The hierarchy of sections

The references of sections span a tree that is never built. Its nodes are the beginnings of their
chunk lists, declared by a section or not, and the children of a node are ordered as siblings. The
rank of a step is its place among its siblings; the ranks along a chunk list number it.
-/

namespace StyleCatalog

open Std Reference

/-- The places that sections take, with the weights they declare. -/
structure Hierarchy where
  weights : Weights
  places : List (List Chunk)

namespace Hierarchy

def ofSections (sections : List Section) : Hierarchy :=
  ⟨.ofSections sections, sections.map Section.chunks⟩

/-- The steps that come right below `above` on the way to some place. -/
def stepsBelow (hierarchy : Hierarchy) (above : List Chunk) : Finset Chunk :=
  (hierarchy.places.filterMap fun place => (above.isPrefixOf? place).bind List.head?).toFinset

/-- The siblings of a step that come strictly before it. -/
def stepsBefore (hierarchy : Hierarchy) (above : List Chunk) (step : Chunk) : Finset Chunk :=
  (hierarchy.stepsBelow above).filter fun other =>
    compareSiblings hierarchy.weights above other step = .lt

/-- The place of a step among its siblings, counted from one. -/
def rank (hierarchy : Hierarchy) (above : List Chunk) (step : Chunk) : Nat :=
  (hierarchy.stepsBefore above step).card + 1

def ranksBelow (hierarchy : Hierarchy) (above : List Chunk) : List Chunk → List Nat
  | [] => []
  | step :: rest => hierarchy.rank above step :: hierarchy.ranksBelow (above ++ [step]) rest

/-- The ranks of the steps of a chunk list, from the top down. -/
def ranks (hierarchy : Hierarchy) (chunks : List Chunk) : List Nat :=
  hierarchy.ranksBelow [] chunks

/-- The steps that stand for a node once it is numbered. -/
def numerals (hierarchy : Hierarchy) (node : List Chunk) : List Chunk :=
  (hierarchy.ranks node).map Text.ofNat

/-! ## Nodes -/

/-- Whether some place begins with the given steps. -/
def HasNode (hierarchy : Hierarchy) (node : List Chunk) : Prop :=
  ∃ below, node ++ below ∈ hierarchy.places

theorem hasNode_of_mem {hierarchy : Hierarchy} {place : List Chunk}
    (member : place ∈ hierarchy.places) : hierarchy.HasNode place :=
  ⟨[], by simpa using member⟩

theorem HasNode.of_append {hierarchy : Hierarchy} {node below : List Chunk}
    (deeper : hierarchy.HasNode (node ++ below)) : hierarchy.HasNode node := by
  rcases deeper with ⟨rest, member⟩
  exact ⟨below ++ rest, by simpa using member⟩

theorem HasNode.child {hierarchy : Hierarchy} {above rest : List Chunk} {step : Chunk}
    (deeper : hierarchy.HasNode (above ++ step :: rest)) :
    hierarchy.HasNode (above ++ [step]) ∧ hierarchy.HasNode (above ++ [step] ++ rest) := by
  have regrouped : hierarchy.HasNode (above ++ [step] ++ rest) := by simpa using deeper
  exact ⟨regrouped.of_append, regrouped⟩

theorem mem_stepsBelow {hierarchy : Hierarchy} {above : List Chunk} {step : Chunk} :
    step ∈ hierarchy.stepsBelow above ↔ hierarchy.HasNode (above ++ [step]) := by
  simp only [stepsBelow, List.mem_toFinset, List.mem_filterMap, Option.bind_eq_some_iff,
    List.isPrefixOf?_eq_some_iff_append_eq, HasNode, List.append_assoc, List.singleton_append]
  constructor
  · rintro ⟨place, member, rest, rfl, first⟩
    cases rest with
    | nil => simp at first
    | cons head below =>
        cases first
        exact ⟨below, member⟩
  · rintro ⟨below, member⟩
    exact ⟨above ++ step :: below, member, step :: below, rfl, rfl⟩

theorem mem_stepsBefore {hierarchy : Hierarchy} {above : List Chunk} {other step : Chunk} :
    other ∈ hierarchy.stepsBefore above step ↔
      hierarchy.HasNode (above ++ [other]) ∧
        compareSiblings hierarchy.weights above other step = .lt := by
  rw [stepsBefore, Finset.mem_filter, mem_stepsBelow]

theorem notMem_stepsBefore_self (hierarchy : Hierarchy) (above : List Chunk) (step : Chunk) :
    step ∉ hierarchy.stepsBefore above step := by
  rw [mem_stepsBefore, compareSiblings_eq_eq_iff.mpr rfl]
  simp

/-! ## Ranks of siblings -/

theorem rank_lt_rank {hierarchy : Hierarchy} {above : List Chunk} {x y : Chunk}
    (node : hierarchy.HasNode (above ++ [x]))
    (less : compareSiblings hierarchy.weights above x y = .lt) :
    hierarchy.rank above x < hierarchy.rank above y := by
  apply Nat.add_lt_add_right
  apply Finset.card_lt_card
  have included : hierarchy.stepsBefore above x ⊆ hierarchy.stepsBefore above y := by
    intro other before
    rw [mem_stepsBefore] at before ⊢
    exact ⟨before.1, TransCmp.lt_trans before.2 less⟩
  rw [Finset.ssubset_iff_of_subset included]
  exact ⟨x, mem_stepsBefore.mpr ⟨node, less⟩, hierarchy.notMem_stepsBefore_self above x⟩

theorem eq_of_rank_eq_rank {hierarchy : Hierarchy} {above : List Chunk} {x y : Chunk}
    (xNode : hierarchy.HasNode (above ++ [x])) (yNode : hierarchy.HasNode (above ++ [y]))
    (same : hierarchy.rank above x = hierarchy.rank above y) : x = y := by
  cases order : compareSiblings hierarchy.weights above x y with
  | lt => exact absurd same (Nat.ne_of_lt (rank_lt_rank xNode order))
  | eq => exact compareSiblings_eq_eq_iff.mp order
  | gt =>
      have reversed := OrientedCmp.lt_of_gt order
      exact absurd same.symm (Nat.ne_of_lt (rank_lt_rank yNode reversed))

theorem rank_le_length {hierarchy : Hierarchy} {above : List Chunk} {step : Chunk}
    (node : hierarchy.HasNode (above ++ [step])) :
    hierarchy.rank above step ≤ hierarchy.places.length := by
  have included : hierarchy.stepsBefore above step ⊆ hierarchy.stepsBelow above :=
    Finset.filter_subset _ _
  have fewer : (hierarchy.stepsBefore above step).card < (hierarchy.stepsBelow above).card := by
    apply Finset.card_lt_card
    rw [Finset.ssubset_iff_of_subset included]
    exact ⟨step, mem_stepsBelow.mpr node, hierarchy.notMem_stepsBefore_self above step⟩
  calc
    hierarchy.rank above step ≤ (hierarchy.stepsBelow above).card := fewer
    _ ≤ _ := List.toFinset_card_le _
    _ ≤ hierarchy.places.length := List.length_filterMap_le _ _

/-! ## Ranks along a chunk list -/

theorem length_ranksBelow (hierarchy : Hierarchy) (above chunks : List Chunk) :
    (hierarchy.ranksBelow above chunks).length = chunks.length := by
  induction chunks generalizing above with
  | nil => rfl
  | cons step rest induction => simp [ranksBelow, induction]

theorem ranksBelow_append (hierarchy : Hierarchy) (above first second : List Chunk) :
    hierarchy.ranksBelow above (first ++ second) =
      hierarchy.ranksBelow above first ++ hierarchy.ranksBelow (above ++ first) second := by
  induction first generalizing above with
  | nil => simp [ranksBelow]
  | cons step rest induction => simp [ranksBelow, induction]

theorem length_ranks (hierarchy : Hierarchy) (chunks : List Chunk) :
    (hierarchy.ranks chunks).length = chunks.length :=
  hierarchy.length_ranksBelow [] chunks

theorem ranks_append (hierarchy : Hierarchy) (first second : List Chunk) :
    hierarchy.ranks (first ++ second) =
      hierarchy.ranks first ++ hierarchy.ranksBelow first second := by
  rw [ranks, ranksBelow_append, List.nil_append, ranks]

theorem join_numerals (hierarchy : Hierarchy) (node : List Chunk) :
    join (hierarchy.numerals node) = Numbering.numberOf (hierarchy.ranks node) := rfl

theorem ranks_ne_nil (hierarchy : Hierarchy) {node : List Chunk} (nonempty : node ≠ []) :
    hierarchy.ranks node ≠ [] := by
  rw [← List.length_pos_iff, length_ranks, List.length_pos_iff]
  exact nonempty

theorem numerals_append_cons (hierarchy : Hierarchy) (above : List Chunk) (step : Chunk)
    (rest : List Chunk) :
    hierarchy.numerals (above ++ step :: rest) =
      hierarchy.numerals above ++ Text.ofNat (hierarchy.rank above step) ::
        (hierarchy.ranksBelow (above ++ [step]) rest).map Text.ofNat := by
  rw [numerals, ranks_append, ranksBelow, List.map_append, List.map_cons, numerals]

theorem le_length_of_mem_ranksBelow {hierarchy : Hierarchy} {above chunks : List Chunk} {n : Nat}
    (node : hierarchy.HasNode (above ++ chunks))
    (member : n ∈ hierarchy.ranksBelow above chunks) : n ≤ hierarchy.places.length := by
  induction chunks generalizing above with
  | nil => cases member
  | cons step rest induction =>
      rcases List.mem_cons.mp member with rfl | later
      · exact rank_le_length node.child.1
      · exact induction node.child.2 later

/-- Ranks tell nodes apart. -/
theorem eq_of_ranksBelow_eq {hierarchy : Hierarchy} {above a b : List Chunk}
    (aNode : hierarchy.HasNode (above ++ a)) (bNode : hierarchy.HasNode (above ++ b))
    (same : hierarchy.ranksBelow above a = hierarchy.ranksBelow above b) : a = b := by
  induction a generalizing above b with
  | nil =>
      have lengths := congrArg List.length same
      rw [length_ranksBelow, length_ranksBelow] at lengths
      exact (List.eq_nil_of_length_eq_zero lengths.symm).symm
  | cons x xs induction =>
      cases b with
      | nil => cases same
      | cons y ys =>
          rw [ranksBelow, ranksBelow, List.cons.injEq] at same
          cases eq_of_rank_eq_rank aNode.child.1 bNode.child.1 same.1
          rw [induction aNode.child.2 bNode.child.2 same.2]

/-- Two nodes share as many ranks as they share steps. -/
theorem sharedLength_ranksBelow {hierarchy : Hierarchy} {above a b : List Chunk}
    (aNode : hierarchy.HasNode (above ++ a)) (bNode : hierarchy.HasNode (above ++ b)) :
    sharedLength (hierarchy.ranksBelow above a) (hierarchy.ranksBelow above b) =
      sharedLength a b := by
  induction a generalizing above b with
  | nil => cases b <;> rfl
  | cons x xs induction =>
      cases b with
      | nil => rfl
      | cons y ys =>
          rw [ranksBelow, ranksBelow, sharedLength, sharedLength]
          by_cases same : x = y
          · subst same
            rw [if_pos rfl, if_pos rfl, induction aNode.child.2 bNode.child.2]
          · have different : hierarchy.rank above x ≠ hierarchy.rank above y :=
              fun sameRank => same (eq_of_rank_eq_rank aNode.child.1 bNode.child.1 sameRank)
            rw [if_neg same, if_neg different]

end Hierarchy

end StyleCatalog
