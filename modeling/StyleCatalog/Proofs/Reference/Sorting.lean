import Mathlib.Data.List.Nodup
import StyleCatalog.Proofs.Reference.Chunks
import StyleCatalog.Proofs.Reference.Order

/-! # Sorting sections

Sorting permutes sections into the order of their chunk lists. Where no two sections share a
reference, neither the weights nor the sorted list depend on the order in which the sections came.
-/

namespace StyleCatalog

open Std

/-! ## Declared weights -/

namespace Weights

theorem find?_of_not_mem {normalized : Text} {declared : List (Text × Weight)}
    (absent : normalized ∉ declared.map Prod.fst) : find? normalized declared = none := by
  induction declared with
  | nil => rfl
  | cons entry rest induction =>
      rw [List.map_cons, List.mem_cons, not_or] at absent
      rw [find?, induction absent.2]
      simp [Ne.symm absent.1]

theorem find?_of_mem {normalized : Text} {weight : Weight} {declared : List (Text × Weight)}
    (nodup : (declared.map Prod.fst).Nodup) (member : (normalized, weight) ∈ declared) :
    find? normalized declared = some weight := by
  induction declared with
  | nil => cases member
  | cons entry rest induction =>
      rw [List.map_cons, List.nodup_cons] at nodup
      rcases List.mem_cons.mp member with rfl | later
      · rw [find?, find?_of_not_mem nodup.1]
        simp
      · rw [find?, induction nodup.2 later]

theorem ofSections_keys (sections : List Section) :
    (ofSections sections).declared.map Prod.fst =
      sections.map fun s => Reference.normalize s.reference := by
  simp [ofSections]

/-- A section's own reference has the weight that the section declares. -/
theorem get_of_mem {sections : List Section} {s : Section}
    (distinct : (sections.map fun s => Reference.normalize s.reference).Nodup)
    (member : s ∈ sections) :
    (ofSections sections).get (Reference.normalize s.reference) = s.weight := by
  have declared : (Reference.normalize s.reference, s.weight) ∈ (ofSections sections).declared :=
    List.mem_map.mpr ⟨s, member, rfl⟩
  rw [← ofSections_keys] at distinct
  rw [get, find?_of_mem distinct declared]
  rfl

theorem get_of_not_mem {sections : List Section} {normalized : Text}
    (absent : normalized ∉ sections.map fun s => Reference.normalize s.reference) :
    (ofSections sections).get normalized = .zero := by
  rw [← ofSections_keys] at absent
  rw [get, find?_of_not_mem absent]
  rfl

theorem get_eq_of_perm {sections others : List Section} (permuted : sections.Perm others)
    (distinct : (sections.map fun s => Reference.normalize s.reference).Nodup) :
    (ofSections sections).get = (ofSections others).get := by
  funext normalized
  have keys := permuted.map fun s => Reference.normalize s.reference
  by_cases member : normalized ∈ sections.map fun s => Reference.normalize s.reference
  · rcases List.mem_map.mp member with ⟨s, inSections, rfl⟩
    rw [get_of_mem distinct inSections,
      get_of_mem (keys.nodup_iff.mp distinct) (permuted.mem_iff.mp inSections)]
  · rw [get_of_not_mem member, get_of_not_mem fun other => member (keys.mem_iff.mpr other)]

end Weights

namespace Reference

theorem nodup_chunks_iff {sections : List Section} :
    (sections.map Section.chunks).Nodup ↔
      (sections.map fun s => normalize s.reference).Nodup := by
  simp only [List.Nodup, List.pairwise_map, Section.chunks, Ne, chunks_eq_iff]

theorem compareBelow_congr {weights others : Weights} (same : weights.get = others.get)
    (above a b : List Chunk) :
    compareBelow weights above a b = compareBelow others above a b := by
  induction a generalizing above b with
  | nil => cases b <;> rfl
  | cons x xs induction =>
      cases b with
      | nil => rfl
      | cons y ys => simp only [compareBelow, same, induction]

end Reference

/-! ## The sorted list -/

/-- Whether a section may stand before another in display order. -/
def Section.mayPrecede (weights : Weights) (s t : Section) : Bool :=
  (Reference.compareChunks weights s.chunks t.chunks).isLE

namespace Section

theorem mayPrecede_trans (weights : Weights) (s t u : Section)
    (first : s.mayPrecede weights t = true) (second : t.mayPrecede weights u = true) :
    s.mayPrecede weights u = true :=
  TransCmp.isLE_trans first second

theorem mayPrecede_total (weights : Weights) (s t : Section) :
    (s.mayPrecede weights t || t.mayPrecede weights s) = true := by
  rw [Bool.or_eq_true, mayPrecede, mayPrecede]
  rcases order : Reference.compareChunks weights s.chunks t.chunks
  · exact .inl rfl
  · exact .inl rfl
  · exact .inr (by rw [OrientedCmp.lt_of_gt order]; rfl)

theorem mayPrecede_congr {weights others : Weights} (same : weights.get = others.get) :
    mayPrecede weights = mayPrecede others := by
  funext s t
  rw [mayPrecede, mayPrecede, Reference.compareChunks, Reference.compareChunks,
    Reference.compareBelow_congr same]

end Section

theorem sortSections_eq_mergeSort (sections : List Section) :
    sortSections sections =
      sections.mergeSort (Section.mayPrecede (Weights.ofSections sections)) := by
  simp only [sortSections]
  generalize Weights.ofSections sections = weights
  have keyed : (sections.map fun s => (s.chunks, s)).map Prod.snd = sections := by
    simp [Function.comp_def]
  conv => rhs; rw [← keyed]
  apply List.map_mergeSort
  intro first firstMember second secondMember
  rcases List.mem_map.mp firstMember with ⟨s, -, rfl⟩
  rcases List.mem_map.mp secondMember with ⟨t, -, rfl⟩
  simp only [Section.mayPrecede]
  cases Reference.compareChunks weights s.chunks t.chunks <;> rfl

theorem sortSections_perm (sections : List Section) : (sortSections sections).Perm sections := by
  rw [sortSections_eq_mergeSort]
  exact List.mergeSort_perm _ _

theorem mem_sortSections {sections : List Section} {s : Section} :
    s ∈ sortSections sections ↔ s ∈ sections :=
  (sortSections_perm sections).mem_iff

theorem sortSections_pairwise (sections : List Section) :
    (sortSections sections).Pairwise fun s t =>
      s.mayPrecede (Weights.ofSections sections) t = true := by
  rw [sortSections_eq_mergeSort]
  apply List.pairwise_mergeSort
  · exact Section.mayPrecede_trans _
  · exact Section.mayPrecede_total _

theorem sortSections_of_pairwise {sections : List Section}
    (sorted : sections.Pairwise fun s t =>
      s.mayPrecede (Weights.ofSections sections) t = true) :
    sortSections sections = sections := by
  rw [sortSections_eq_mergeSort]
  exact List.mergeSort_of_pairwise sorted

/-- Sections with distinct references have one display order, whatever order they came in. -/
theorem sortSections_eq_of_perm {sections others : List Section}
    (permuted : sections.Perm others)
    (distinct : (sections.map fun s => Reference.normalize s.reference).Nodup) :
    sortSections sections = sortSections others := by
  have sameOrder : Section.mayPrecede (Weights.ofSections others) =
      Section.mayPrecede (Weights.ofSections sections) :=
    Section.mayPrecede_congr (Weights.get_eq_of_perm permuted distinct).symm
  have othersSorted := sortSections_pairwise others
  rw [sameOrder] at othersSorted
  refine List.Perm.eq_of_pairwise ?_ (sortSections_pairwise sections) othersSorted ?_
  · intro s t inSections inOthers before after
    -- Stability never decides: a tie would be two sections with one reference.
    have samePlace : s.chunks = t.chunks :=
      Reference.compareChunks_eq_eq_iff.mp (OrientedCmp.isLE_antisymm before after)
    have tInSections := permuted.mem_iff.mpr (mem_sortSections.mp inOthers)
    exact List.inj_on_of_nodup_map (Reference.nodup_chunks_iff.mpr distinct)
      (mem_sortSections.mp inSections) tInSections samePlace
  · exact (sortSections_perm sections).trans (permuted.trans (sortSections_perm others).symm)

/-- Sections are numbered in the one order in which they are sorted. -/
theorem resolveSections_of_sorted {sections sorted : List Section}
    (permuted : sections.Perm sorted)
    (distinct : (sections.map fun s => Reference.normalize s.reference).Nodup)
    (inOrder : sorted.Pairwise fun s t =>
      s.mayPrecede (Weights.ofSections sorted) t = true) :
    resolveSections sections = numberSections sorted := by
  rw [resolveSections, sortSections_eq_of_perm permuted distinct,
    sortSections_of_pairwise inOrder]

end StyleCatalog
