import StyleCatalog.Proofs.Reference.Branches

/-! # The display order of any sections

Sorting is stable: sections with one reference stay in the order in which they came. The last of
them is the one whose weight counts, so the sorted sections declare the weights by which they were
sorted, and sorting them again changes nothing.
-/

namespace StyleCatalog

open Reference

/-! ## Stability -/

/-- A stable sort leaves items that tie with each other in their order. -/
theorem filter_mergeSort {α : Type} {le : α → α → Bool} {keep : α → Bool}
    (trans : ∀ a b c, le a b = true → le b c = true → le a c = true)
    (total : ∀ a b, (le a b || le b a) = true)
    (ties : ∀ a b, keep a = true → keep b = true → le a b = true) (items : List α) :
    (items.mergeSort le).filter keep = items.filter keep := by
  have tied : (items.filter keep).Pairwise fun a b => le a b = true :=
    List.pairwise_filter.mpr (List.pairwise_of_forall ties)
  have kept := (List.sublist_mergeSort trans total tied List.filter_sublist).filter keep
  rw [List.filter_filter] at kept
  simp only [Bool.and_self] at kept
  have sameLength := ((List.mergeSort_perm items le).filter keep).length_eq
  exact (kept.eq_of_length sameLength.symm).symm

/-- Sections that share a reference keep their order. -/
theorem filter_sortSections (sections : List Section) (normalized : Text) :
    ((sortSections sections).filter fun s => Reference.normalize s.reference = normalized) =
      sections.filter fun s => Reference.normalize s.reference = normalized := by
  rw [sortSections_eq_mergeSort]
  apply filter_mergeSort
  · exact Section.mayPrecede_trans _
  · exact Section.mayPrecede_total _
  · intro s t sPlace tPlace
    have place : s.chunks = t.chunks := by
      apply chunks_eq_iff.mpr
      rw [of_decide_eq_true sPlace, of_decide_eq_true tPlace]
    rw [Section.mayPrecede, compareChunks_eq_eq_iff.mpr place]
    rfl

/-! ## Weights of the sorted sections -/

namespace Weights

theorem find?_eq_getLast? (normalized : Text) (declared : List (Text × Weight)) :
    find? normalized declared =
      ((declared.filter fun entry => entry.1 = normalized).getLast?).map Prod.snd := by
  induction declared with
  | nil => rfl
  | cons entry rest induction =>
      rw [find?, induction]
      by_cases same : entry.1 = normalized
      · rw [List.filter_cons_of_pos (by simpa using same), List.getLast?_cons, if_pos same]
        cases (rest.filter fun entry => entry.1 = normalized).getLast? with
        | none => rfl
        | some last => rfl
      · rw [List.filter_cons_of_neg (by simpa using same), if_neg same]
        cases (rest.filter fun entry => entry.1 = normalized).getLast? with
        | none => rfl
        | some last => rfl

/-- The last section with a reference decides on its weight. -/
theorem get_ofSections (sections : List Section) (normalized : Text) :
    (ofSections sections).get normalized =
      (((sections.filter fun s => Reference.normalize s.reference = normalized).getLast?).map
        Section.weight).getD .zero := by
  rw [get, find?_eq_getLast?, ofSections, List.filter_map, List.getLast?_map, Option.map_map]
  rfl

theorem get_sortSections (sections : List Section) :
    (ofSections (sortSections sections)).get = (ofSections sections).get := by
  funext normalized
  rw [get_ofSections, get_ofSections, filter_sortSections]

end Weights

theorem sortSections_sortSections (sections : List Section) :
    sortSections (sortSections sections) = sortSections sections := by
  apply sortSections_of_pairwise
  rw [Section.mayPrecede_congr (Weights.get_sortSections sections)]
  exact sortSections_pairwise sections

/-! ## The walk and its repetition -/

/-- Display order is a stable pre-order walk of the hierarchy. It is a permutation that never goes
down in the order of references and keeps sections with one reference in their order; the branch of
any node, declared or not, is in one piece that begins with the node's own sections. -/
theorem sortSections_walks_in_preorder (sections : List Section) :
    (sortSections sections).Perm sections ∧
      ((sortSections sections).Pairwise fun s t =>
        (Reference.compare (.ofSections sections) s.reference t.reference).isLE) ∧
      (∀ normalized : Text,
        ((sortSections sections).filter fun s => Reference.normalize s.reference = normalized) =
          sections.filter fun s => Reference.normalize s.reference = normalized) ∧
      ∀ node : List Chunk, ∃ before own below after,
        sortSections sections = before ++ own ++ below ++ after ∧
          IsBranch node before own below after := by
  refine ⟨sortSections_perm sections, ?_, filter_sortSections sections, exists_branch sections⟩
  exact sortSections_pairwise sections

/-- Sorted sections declare the weights by which they were sorted. Sorting them again changes
nothing, and resolution has the same outcome for them. -/
theorem resolveSections_absorbs_sorting (sections : List Section) :
    (Weights.ofSections (sortSections sections)).get = (Weights.ofSections sections).get ∧
      sortSections (sortSections sections) = sortSections sections ∧
      resolveSections (sortSections sections) = resolveSections sections := by
  refine ⟨Weights.get_sortSections sections, sortSections_sortSections sections, ?_⟩
  rw [resolveSections, resolveSections, sortSections_sortSections]

end StyleCatalog
