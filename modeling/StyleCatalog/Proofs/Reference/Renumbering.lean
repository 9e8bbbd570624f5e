import StyleCatalog.Proofs.Reference.Resolution

/-! # Resolving once more

Numbering copies the hierarchy: the numerals of a node stand for its steps, with the same weights
and in the same order among their siblings. Sections that were numbered are therefore sorted
already, and they keep their numbers when they are resolved again.
-/

namespace StyleCatalog

open Std Reference

/-! ## Numbered sections -/

namespace Section

variable {s : Section}

theorem hasNumericReference_numberedIn (hierarchy : Hierarchy) (s : Section) :
    (s.numberedIn hierarchy).hasNumericReference = true := by
  rw [numberedIn]
  split
  · assumption
  · exact isNumericReference_numberOf _

theorem numberedIn_of_numeric (hierarchy : Hierarchy) (numeric : s.hasNumericReference = true) :
    s.numberedIn hierarchy = s := by
  rw [numberedIn, if_pos numeric]

theorem weight_numberedIn (hierarchy : Hierarchy) (s : Section) :
    (s.numberedIn hierarchy).weight = s.weight := by
  rw [numberedIn]
  split <;> rfl

theorem normalize_numberedIn (hierarchy : Hierarchy) (text : s.hasNumericReference = false) :
    Reference.normalize (s.numberedIn hierarchy).reference = s.finalReference hierarchy := by
  rw [reference_numberedIn, finalReference_of_text hierarchy text, normalize_numberOf]

end Section

/-! ## The copied hierarchy -/

namespace Hierarchy

theorem dot_not_mem_of_hasNode {sections : List Section} {node : List Chunk}
    (hasNode : (ofSections sections).HasNode node) : ∀ step ∈ node, '.' ∉ step := by
  intro step member
  rcases hasNode with ⟨below, place⟩
  rcases List.mem_map.mp place with ⟨s, -, chunks⟩
  have inChunks : step ∈ s.chunks := by
    rw [chunks]
    exact List.mem_append_left below member
  exact dot_not_mem_of_mem_chunks inChunks

end Hierarchy

/-! ## Resolved sections -/

section Resolved

variable {sections resolved : List Section}

theorem normalized_of_resolved (text : ∀ s ∈ sections, s.hasNumericReference = false)
    (success : resolveSections sections = .ok resolved) :
    (resolved.map fun s => Reference.normalize s.reference) =
      (sortSections sections).map (Section.finalReference (.ofSections sections)) := by
  rw [(resolveSections_eq_ok_iff.mp success).2, List.map_map]
  apply List.map_congr_left
  intro s member
  exact Section.normalize_numberedIn _ (text s (mem_sortSections.mp member))

theorem nodup_of_resolved (text : ∀ s ∈ sections, s.hasNumericReference = false)
    (success : resolveSections sections = .ok resolved) :
    (resolved.map fun s => Reference.normalize s.reference).Nodup := by
  rw [normalized_of_resolved text success]
  have permuted := (sortSections_perm sections).map (Section.finalReference (.ofSections sections))
  exact permuted.nodup_iff.mpr (resolveSections_eq_ok_iff.mp success).1.2

theorem declared_of_join_mem {node : List Chunk} (nonempty : node ≠ [])
    (hasNode : (Hierarchy.ofSections sections).HasNode node)
    (member : join node ∈ sections.map fun s => Reference.normalize s.reference) :
    ∃ s ∈ sections, s.chunks = node := by
  rcases List.mem_map.mp member with ⟨s, inSections, same⟩
  refine ⟨s, inSections, ?_⟩
  rw [Section.chunks, Reference.chunks, same]
  exact splitAtChar_join nonempty (Hierarchy.dot_not_mem_of_hasNode hasNode)

theorem declared_of_join_numerals_mem (text : ∀ s ∈ sections, s.hasNumericReference = false)
    (success : resolveSections sections = .ok resolved) {node : List Chunk}
    (nonempty : node ≠ []) (hasNode : (Hierarchy.ofSections sections).HasNode node)
    (member : join ((Hierarchy.ofSections sections).numerals node) ∈
      resolved.map fun s => Reference.normalize s.reference) :
    ∃ s ∈ sections, s.chunks = node := by
  rw [normalized_of_resolved text success] at member
  rcases List.mem_map.mp member with ⟨s, inSorted, same⟩
  have inSections := mem_sortSections.mp inSorted
  rw [Section.finalReference_of_text _ (text s inSections), Hierarchy.join_numerals] at same
  have sameRanks := numberOf_injective (Hierarchy.ranks_ne_nil _ (chunks_ne_nil s.reference))
    (Hierarchy.ranks_ne_nil _ nonempty) same
  have sNode := Section.hasNode_chunks inSections
  exact ⟨s, inSections, Hierarchy.eq_of_ranksBelow_eq sNode hasNode sameRanks⟩

/-- The numerals of a node have the weight of the node, declared or not. -/
theorem get_numerals (text : ∀ s ∈ sections, s.hasNumericReference = false)
    (success : resolveSections sections = .ok resolved) {node : List Chunk}
    (nonempty : node ≠ []) (hasNode : (Hierarchy.ofSections sections).HasNode node) :
    (Weights.ofSections resolved).get (join ((Hierarchy.ofSections sections).numerals node)) =
      (Weights.ofSections sections).get (join node) := by
  by_cases declared : ∃ s ∈ sections, s.chunks = node
  · rcases declared with ⟨s, member, rfl⟩
    have distinct := (resolveSections_eq_ok_iff.mp success).1.1
    have numbered : s.numberedIn (.ofSections sections) ∈ resolved := by
      rw [(resolveSections_eq_ok_iff.mp success).2]
      exact List.mem_map_of_mem (mem_sortSections.mpr member)
    have original := Weights.get_of_mem distinct member
    have copied := Weights.get_of_mem (nodup_of_resolved text success) numbered
    rw [Section.normalize_numberedIn _ (text s member),
      Section.finalReference_of_text _ (text s member), Section.weight_numberedIn] at copied
    rw [Hierarchy.join_numerals, copied, Section.chunks, join_chunks, original]
  · -- A node that no section declares has no declared copy either: both weights are zero.
    have undeclared : join node ∉ sections.map fun s => Reference.normalize s.reference :=
      fun member => declared (declared_of_join_mem nonempty hasNode member)
    have undeclaredCopy : join ((Hierarchy.ofSections sections).numerals node) ∉
        resolved.map fun s => Reference.normalize s.reference :=
      fun member => declared (declared_of_join_numerals_mem text success nonempty hasNode member)
    rw [Weights.get_of_not_mem undeclaredCopy, Weights.get_of_not_mem undeclared]

/-- Numerals are in the order of the siblings they stand for. -/
theorem compareSiblings_numerals (text : ∀ s ∈ sections, s.hasNumericReference = false)
    (success : resolveSections sections = .ok resolved) {above : List Chunk} {x y : Chunk}
    (xNode : (Hierarchy.ofSections sections).HasNode (above ++ [x]))
    (yNode : (Hierarchy.ofSections sections).HasNode (above ++ [y]))
    (less : compareSiblings (Weights.ofSections sections) above x y = .lt) :
    compareSiblings (Weights.ofSections resolved)
      ((Hierarchy.ofSections sections).numerals above)
      (Text.ofNat ((Hierarchy.ofSections sections).rank above x))
      (Text.ofNat ((Hierarchy.ofSections sections).rank above y)) = .lt := by
  have xWeight := get_numerals text success (by simp) xNode
  have yWeight := get_numerals text success (by simp) yNode
  have inOrder := compareChunk_ofNat_lt (Hierarchy.rank_lt_rank xNode less)
  rw [Hierarchy.numerals_append_cons, Hierarchy.ranksBelow, List.map_nil] at xWeight yWeight
  rw [compareSiblings, xWeight, yWeight, inOrder]
  rw [compareSiblings, Ordering.then_eq_lt] at less
  rw [Ordering.then_eq_lt]
  exact less.imp_right fun tie => ⟨tie.1, rfl⟩

/-- The copy keeps the display order. -/
theorem mayPrecede_numberedIn (text : ∀ s ∈ sections, s.hasNumericReference = false)
    (success : resolveSections sections = .ok resolved) {s t : Section}
    (sMember : s ∈ sections) (tMember : t ∈ sections)
    (order : s.mayPrecede (Weights.ofSections sections) t = true) :
    (s.numberedIn (.ofSections sections)).mayPrecede (Weights.ofSections resolved)
      (t.numberedIn (.ofSections sections)) = true := by
  rw [Section.mayPrecede, Section.chunks_numberedIn _ (text s sMember),
    Section.chunks_numberedIn _ (text t tMember)]
  have sNode := Section.hasNode_chunks sMember
  have tNode := Section.hasNode_chunks tMember
  rcases Ordering.isLE_iff_eq_lt_or_eq_eq.mp order with less | tie
  · rcases exists_split_of_compareBelow_lt less with ⟨shared, y, ys, tChunks, parts⟩
    rw [tChunks] at tNode
    rw [tChunks, Hierarchy.numerals_append_cons]
    rcases parts with ends | ⟨x, xs, sChunks, before⟩
    · rw [ends, compareChunks, compareBelow_self_append_cons]
      rfl
    · rw [sChunks] at sNode
      have copied := compareSiblings_numerals text success sNode.child.1 tNode.child.1 before
      rw [sChunks, Hierarchy.numerals_append_cons, compareChunks_lt_of_compareSiblings copied]
      rfl
  · rw [compareChunks_eq_eq_iff.mp tie]
    exact ReflCmp.isLE_rfl

theorem sortSections_of_resolved (text : ∀ s ∈ sections, s.hasNumericReference = false)
    (success : resolveSections sections = .ok resolved) : sortSections resolved = resolved := by
  apply sortSections_of_pairwise
  -- Only the list is rewritten: the weights stay those of the resolved sections.
  nth_rewrite 2 [(resolveSections_eq_ok_iff.mp success).2]
  rw [List.pairwise_map]
  refine (sortSections_pairwise sections).imp_of_mem ?_
  intro s t sMember tMember order
  exact mayPrecede_numberedIn text success (mem_sortSections.mp sMember)
    (mem_sortSections.mp tMember) order

theorem hasNumericReference_of_resolved (success : resolveSections sections = .ok resolved)
    {s : Section} (member : s ∈ resolved) : s.hasNumericReference = true := by
  rw [(resolveSections_eq_ok_iff.mp success).2] at member
  rcases List.mem_map.mp member with ⟨t, -, rfl⟩
  exact Section.hasNumericReference_numberedIn _ t

end Resolved

/-- Resolving sections that were resolved from text references changes nothing. -/
theorem resolveSections_of_resolved {sections resolved : List Section}
    (text : ∀ s ∈ sections, s.hasNumericReference = false)
    (success : resolveSections sections = .ok resolved) :
    resolveSections resolved = .ok resolved := by
  have distinct := nodup_of_resolved text success
  rw [resolveSections_eq_ok_iff, sortSections_of_resolved text success]
  refine ⟨⟨distinct, ?_⟩, ?_⟩
  · refine List.Nodup.map_on ?_ distinct.of_map
    intro s sMember t tMember same
    rw [Section.finalReference_of_numeric _ (hasNumericReference_of_resolved success sMember),
      Section.finalReference_of_numeric _ (hasNumericReference_of_resolved success tMember)] at same
    exact List.inj_on_of_nodup_map distinct sMember tMember (congrArg Reference.normalize same)
  · have unchanged :
        resolved.map (Section.numberedIn (.ofSections resolved)) = resolved.map id := by
      apply List.map_congr_left
      intro s member
      exact Section.numberedIn_of_numeric _ (hasNumericReference_of_resolved success member)
    rw [unchanged, List.map_id]

/-- Text references only, with a weight and with a step that no section declares. -/
def textSections : List Section :=
  [{ reference := ['A', '.', 'c'] },
    { reference := ['a'], weight := sampleWeight },
    { reference := ['d', '.', 'e'] },
    { reference := ['b'] }]

def textNumbered : List Section :=
  [{ reference := ['1'], stringReference := some ['b'] },
    { reference := ['2', '.', '1'], stringReference := some ['d', '.', 'e'] },
    { reference := ['3'], stringReference := some ['a'], weight := sampleWeight },
    { reference := ['3', '.', '1'], stringReference := some ['A', '.', 'c'] }]

theorem resolveSections_textSections : resolveSections textSections = .ok textNumbered := by
  have permuted : textSections.Perm
      [{ reference := ['b'] },
        { reference := ['d', '.', 'e'] },
        { reference := ['a'], weight := sampleWeight },
        { reference := ['A', '.', 'c'] }] := by decide +kernel
  rw [resolveSections_of_sorted permuted (by decide +kernel) (by decide +kernel)]
  rfl

theorem textNumbered_unchanged : resolveSections textNumbered = .ok textNumbered :=
  resolveSections_of_resolved (by decide +kernel) resolveSections_textSections

end StyleCatalog
