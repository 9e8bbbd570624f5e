import StyleCatalog.Proofs.Reference.Comparison
import StyleCatalog.Proofs.Reference.DisplayOrder

/-! # The reach of a weight

Two references are compared by the weights of the two nodes at which they part. A section declares
the weight of its own node, so a new weight can change the order of two sections only if they part
at that node: it moves the branch of the section among its siblings, and nothing else.
-/

namespace StyleCatalog

open Std

/-! ## Weights that a comparison looks up -/

namespace Reference

/-- Only the nodes right below the shared steps, one for each list, have a say in the order. -/
theorem compareBelow_eq_of_agree {weights others : Weights} {above a b : List Chunk}
    (agree : ∀ node, node ≠ [] → node.dropLast = a.take (sharedLength a b) →
      (node <+: a ∨ node <+: b) →
        weights.get (join (above ++ node)) = others.get (join (above ++ node))) :
    compareBelow weights above a b = compareBelow others above a b := by
  induction a generalizing above b with
  | nil => cases b <;> rfl
  | cons x xs induction =>
      cases b with
      | nil => rfl
      | cons y ys =>
          rw [compareBelow, compareBelow]
          by_cases same : x = y
          · subst same
            rw [if_pos rfl, if_pos rfl]
            apply induction
            intro node nonempty parent within
            have deeper := agree (x :: node) (List.cons_ne_nil x node)
            rw [sharedLength, if_pos rfl, List.take_succ_cons, ← parent,
              List.dropLast_cons_of_ne_nil nonempty, List.prefix_cons_inj,
              List.prefix_cons_inj] at deeper
            rw [List.append_assoc, List.singleton_append]
            exact deeper rfl within
          · -- The lists part here, at the nodes of `x` and `y`.
            have shared : (x :: xs).take (sharedLength (x :: xs) (y :: ys)) = [] := by
              rw [sharedLength, if_neg same, List.take_zero]
            rw [shared] at agree
            have left := agree [x] (List.cons_ne_nil x []) rfl (.inl (by simp))
            have right := agree [y] (List.cons_ne_nil y []) rfl (.inr (by simp))
            rw [if_neg same, if_neg same]
            simp only [left, right]

theorem join_injective {node other : List Chunk} (nonempty : node ≠ []) (otherNonempty : other ≠ [])
    (free : ∀ step ∈ node, '.' ∉ step) (otherFree : ∀ step ∈ other, '.' ∉ step)
    (same : join node = join other) : node = other := by
  rw [← splitAtChar_join nonempty free, same, splitAtChar_join otherNonempty otherFree]

/-- Weights that differ for one reference only agree on the order of references that do not part at
its node. -/
theorem compare_eq_of_agree {weights others : Weights} {changed a b : Text}
    (agree : ∀ normalized, normalized ≠ normalize changed →
      weights.get normalized = others.get normalized)
    (elsewhere : ¬((chunks a).take (sharedLength (chunks a) (chunks b)) =
        (chunks changed).dropLast ∧
      (chunks changed <+: chunks a ∨ chunks changed <+: chunks b))) :
    compare weights a b = compare others a b := by
  apply compareBelow_eq_of_agree
  intro node nonempty parent within
  rw [List.nil_append]
  apply agree
  intro lookedUp
  have free : ∀ step ∈ node, '.' ∉ step := by
    intro step member
    rcases within with inFirst | inSecond
    · exact dot_not_mem_of_mem_chunks (inFirst.subset member)
    · exact dot_not_mem_of_mem_chunks (inSecond.subset member)
  rw [← join_chunks] at lookedUp
  have node_eq : node = chunks changed :=
    join_injective nonempty (chunks_ne_nil changed) free
      (fun step member => dot_not_mem_of_mem_chunks member) lookedUp
  subst node_eq
  exact elsewhere ⟨parent.symm, within⟩

end Reference

open Reference

theorem Weights.get_reweighed {front back : List Section} {s : Section} {weight : Weight}
    {normalized : Text} (other : normalized ≠ Reference.normalize s.reference) :
    (ofSections (front ++ { s with weight := weight } :: back)).get normalized =
      (ofSections (front ++ s :: back)).get normalized := by
  have skipped (t : Section) (place : t.reference = s.reference) :
      ((t :: back).filter fun u => Reference.normalize u.reference = normalized) =
        back.filter fun u => Reference.normalize u.reference = normalized := by
    apply List.filter_cons_of_neg
    simpa [place] using other.symm
  rw [get_ofSections, get_ofSections, List.filter_append, List.filter_append,
    skipped { s with weight := weight } rfl, skipped s rfl]

/-! ## The order of two sections -/

/-- One section stands before another. The references, which a weight does not touch, stand for the
sections. -/
def StandsBefore (displayed : List Section) (s t : Section) : Prop :=
  [s.reference, t.reference].Sublist (displayed.map Section.reference)

/-- Of two items of a sorted list the smaller one stands first. -/
theorem pair_sublist_iff_of_pairwise {α : Type} {R : α → α → Prop} {items : List α} {a b : α}
    (sorted : items.Pairwise R) (asymmetric : ∀ a b, R a b → ¬R b a) (aMember : a ∈ items)
    (bMember : b ∈ items) : [a, b].Sublist items ↔ R a b := by
  constructor
  · intro ordered
    exact List.pairwise_iff_forall_sublist.mp sorted ordered
  · intro less
    rcases List.append_of_mem aMember with ⟨before, after, rfl⟩
    have parts := List.pairwise_append.mp sorted
    rcases List.mem_append.mp bMember with early | late
    · exact absurd (parts.2.2 b early a List.mem_cons_self) (asymmetric a b less)
    · rcases List.mem_cons.mp late with rfl | later
      · exact absurd less (asymmetric b b less)
      · have tail : [b].Sublist after := List.singleton_sublist.mpr later
        exact (tail.cons_cons a).trans (List.sublist_append_right before (a :: after))

theorem references_pairwise_lt {sections : List Section}
    (distinct : (sections.map fun s => Reference.normalize s.reference).Nodup) :
    ((sortSections sections).map Section.reference).Pairwise fun a b =>
      Reference.compare (.ofSections sections) a b = .lt := by
  have places := (sortSections_perm sections).map fun s => Reference.normalize s.reference
  have apart := List.pairwise_map.mp (places.nodup_iff.mpr distinct)
  rw [List.pairwise_map]
  apply ((sortSections_pairwise sections).and apart).imp
  intro s t both
  rcases Ordering.isLE_iff_eq_lt_or_eq_eq.mp both.1 with less | tie
  · exact less
  · exact absurd (compare_eq_eq_iff.mp tie) both.2

theorem standsBefore_sortSections_iff {sections : List Section} {s t : Section}
    (distinct : (sections.map fun s => Reference.normalize s.reference).Nodup)
    (sMember : s.reference ∈ sections.map Section.reference)
    (tMember : t.reference ∈ sections.map Section.reference) :
    StandsBefore (sortSections sections) s t ↔
      Reference.compare (.ofSections sections) s.reference t.reference = .lt := by
  have listed := (sortSections_perm sections).map Section.reference
  apply pair_sublist_iff_of_pairwise (references_pairwise_lt distinct)
  · intro a b less more
    rw [OrientedCmp.gt_of_lt less] at more
    cases more
  · exact listed.mem_iff.mpr sMember
  · exact listed.mem_iff.mpr tMember

/-- A weight only moves the branch of its section among its siblings. Two sections stand in the same
order before and after a section gets a new weight, unless they part right above that section's
place and one of them is in its branch. -/
theorem standsBefore_reweighed {front back : List Section} {s x y : Section} (weight : Weight)
    (distinct : ((front ++ s :: back).map fun t => Reference.normalize t.reference).Nodup)
    (xMember : x ∈ front ++ s :: back) (yMember : y ∈ front ++ s :: back)
    (elsewhere : ¬(x.chunks.take (sharedLength x.chunks y.chunks) = s.chunks.dropLast ∧
      (s.chunks <+: x.chunks ∨ s.chunks <+: y.chunks))) :
    StandsBefore (sortSections (front ++ { s with weight := weight } :: back)) x y ↔
      StandsBefore (sortSections (front ++ s :: back)) x y := by
  have xListed : x.reference ∈ (front ++ s :: back).map Section.reference :=
    List.mem_map_of_mem xMember
  have yListed : y.reference ∈ (front ++ s :: back).map Section.reference :=
    List.mem_map_of_mem yMember
  have references : (front ++ { s with weight := weight } :: back).map Section.reference =
      (front ++ s :: back).map Section.reference := by
    rw [List.map_append, List.map_append]
    rfl
  have places : ((front ++ { s with weight := weight } :: back).map
      fun t => Reference.normalize t.reference) =
        (front ++ s :: back).map fun t => Reference.normalize t.reference := by
    rw [List.map_append, List.map_append]
    rfl
  rw [standsBefore_sortSections_iff distinct xListed yListed,
    standsBefore_sortSections_iff (places ▸ distinct) (references ▸ xListed)
      (references ▸ yListed), compare_eq_of_agree _ elsewhere]
  intro normalized other
  exact Weights.get_reweighed other

def lightSection : Section := { reference := "B".toList }

def heavySection : Section := { reference := "a".toList, weight := sampleWeight }

def sectionsBelowHeavy : List Section :=
  [{ reference := "A.c".toList }, { reference := "a - b".toList }]

/-- A section that loses its weight goes before its sibling; those below it stay in order. -/
theorem heavySection_moves_alone :
    StandsBefore (sortSections ([lightSection] ++ heavySection :: sectionsBelowHeavy))
        lightSection heavySection ∧
      StandsBefore (sortSections
          ([lightSection] ++ { heavySection with weight := .zero } :: sectionsBelowHeavy))
        heavySection lightSection ∧
      StandsBefore (sortSections
          ([lightSection] ++ { heavySection with weight := .zero } :: sectionsBelowHeavy))
        { reference := "a - b".toList } { reference := "A.c".toList } := by
  have distinct : (([lightSection] ++ heavySection :: sectionsBelowHeavy).map
      fun t => Reference.normalize t.reference).Nodup := by decide +kernel
  refine ⟨?_, ?_, ?_⟩
  · apply (standsBefore_sortSections_iff distinct _ _).mpr
    all_goals decide +kernel
  · apply (standsBefore_sortSections_iff _ _ _).mpr
    all_goals decide +kernel
  · apply (standsBefore_reweighed .zero distinct _ _ _).mpr
    · apply (standsBefore_sortSections_iff distinct _ _).mpr
      all_goals decide +kernel
    all_goals decide +kernel

end StyleCatalog
