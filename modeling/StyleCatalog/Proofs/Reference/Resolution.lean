import StyleCatalog.Proofs.Reference.Numbering

/-! # What resolution returns

Resolution succeeds exactly when no two sections share a reference, before or after numbering. It
then returns the sections in display order, each with the number of its place in the hierarchy;
otherwise it names two sections that conflict.
-/

namespace StyleCatalog

open Reference

/-! ## Numbers by place -/

namespace Section

variable {sections : List Section} {s t : Section}

theorem hasNode_chunks (member : s ∈ sections) :
    (Hierarchy.ofSections sections).HasNode s.chunks :=
  Hierarchy.hasNode_of_mem (List.mem_map_of_mem member)

/-- The steps of a numbered section are its ranks. -/
theorem chunks_numberedIn (hierarchy : Hierarchy) (text : s.hasNumericReference = false) :
    (s.numberedIn hierarchy).chunks = hierarchy.numerals s.chunks := by
  rw [Section.chunks, reference_numberedIn, finalReference_of_text hierarchy text]
  exact chunks_numberOf (hierarchy.ranks_ne_nil (chunks_ne_nil s.reference))

theorem sharedLength_numberedIn (sMember : s ∈ sections) (tMember : t ∈ sections)
    (sText : s.hasNumericReference = false) (tText : t.hasNumericReference = false) :
    sharedLength (s.numberedIn (.ofSections sections)).chunks
        (t.numberedIn (.ofSections sections)).chunks =
      sharedLength s.chunks t.chunks := by
  rw [chunks_numberedIn _ sText, chunks_numberedIn _ tText,
    Hierarchy.numerals, Hierarchy.numerals, sharedLength_map Text.ofNat_injective]
  exact Hierarchy.sharedLength_ranksBelow (hasNode_chunks sMember) (hasNode_chunks tMember)

/-- Two text references that get one number are one reference. -/
theorem normalize_eq_of_finalReference_eq (sMember : s ∈ sections) (tMember : t ∈ sections)
    (sText : s.hasNumericReference = false) (tText : t.hasNumericReference = false)
    (same : s.finalReference (.ofSections sections) = t.finalReference (.ofSections sections)) :
    Reference.normalize s.reference = Reference.normalize t.reference := by
  rw [finalReference_of_text _ sText, finalReference_of_text _ tText] at same
  have sameRanks := numberOf_injective (Hierarchy.ranks_ne_nil _ (chunks_ne_nil s.reference))
    (Hierarchy.ranks_ne_nil _ (chunks_ne_nil t.reference)) same
  exact chunks_eq_iff.mp (Hierarchy.eq_of_ranksBelow_eq (hasNode_chunks sMember)
    (hasNode_chunks tMember) sameRanks)

end Section

/-! ## Success and collision -/

theorem pairwise_not_conflicts_iff (sections : List Section) :
    ((sortSections sections).Pairwise fun s t => ¬s.Conflicts (.ofSections sections) t) ↔
      (sections.map fun s => Reference.normalize s.reference).Nodup ∧
        (sections.map (Section.finalReference (.ofSections sections))).Nodup := by
  have permuted := sortSections_perm sections
  rw [← (permuted.map fun s => Reference.normalize s.reference).nodup_iff,
    ← (permuted.map (Section.finalReference (.ofSections sections))).nodup_iff]
  simp only [Section.Conflicts, not_or, List.pairwise_and_iff, List.Nodup, List.pairwise_map, Ne]

theorem not_pairwise_of_names {hierarchy : Hierarchy} {sections : List Section}
    {collision : Collision} (named : Numbering.Names hierarchy sections collision) :
    ¬sections.Pairwise fun s t => ¬s.Conflicts hierarchy t := by
  rcases named with ⟨before, s, between, t, after, rfl, conflict, -⟩
  intro free
  have later := (List.pairwise_cons.mp (List.pairwise_append.mp free).2.1).1
  exact later t (by simp) conflict

/-- Resolution succeeds exactly on sections without conflicts, and numbers them by their places. -/
theorem resolveSections_eq_ok_iff {sections resolved : List Section} :
    resolveSections sections = .ok resolved ↔
      ((sections.map fun s => Reference.normalize s.reference).Nodup ∧
        (sections.map (Section.finalReference (.ofSections sections))).Nodup) ∧
      resolved = (sortSections sections).map (Section.numberedIn (.ofSections sections)) := by
  rw [← pairwise_not_conflicts_iff]
  rcases resolveSections_cases sections with ⟨numbered, free⟩ | ⟨collision, failed, named⟩
  · rw [numbered, Except.ok.injEq, eq_comm]
    exact ⟨fun same => ⟨free, same⟩, fun both => both.2⟩
  · rw [failed]
    constructor
    · intro impossible
      cases impossible
    · intro both
      exact absurd both.1 (not_pairwise_of_names named)

/-- Text references that differ get numbers that differ. -/
theorem nodup_finalReference_of_text {sections : List Section}
    (text : ∀ s ∈ sections, s.hasNumericReference = false)
    (distinct : (sections.map fun s => Reference.normalize s.reference).Nodup) :
    (sections.map (Section.finalReference (.ofSections sections))).Nodup := by
  refine List.Nodup.map_on ?_ distinct.of_map
  intro s sMember t tMember same
  have sameReference := Section.normalize_eq_of_finalReference_eq sMember tMember
    (text s sMember) (text t tMember) same
  exact List.inj_on_of_nodup_map distinct sMember tMember sameReference

theorem names_of_resolveSections_eq_error {sections : List Section} {collision : Collision}
    (failure : resolveSections sections = .error collision) :
    Numbering.Names (.ofSections sections) (sortSections sections) collision := by
  rcases resolveSections_cases sections with ⟨numbered, -⟩ | ⟨other, failed, named⟩
  · rw [numbered] at failure
    cases failure
  · rw [failed] at failure
    cases failure
    exact named

/-- Numbering equals tree rank. The result is the sorted list, in which every section has the ranks
of its steps for a number and keeps all else; numbers given by hand stay. The ranks stay within the
number of sections, and two numbers share as many leading steps as the references they replace. -/
theorem resolveSections_numbers_by_rank {sections resolved : List Section}
    (success : resolveSections sections = .ok resolved) :
    resolved = (sortSections sections).map (Section.numberedIn (.ofSections sections)) ∧
      (∀ s ∈ sections, ∀ n ∈ (Hierarchy.ofSections sections).ranks s.chunks,
        n ≤ sections.length) ∧
      ∀ s ∈ sections, ∀ t ∈ sections,
        s.hasNumericReference = false → t.hasNumericReference = false →
          sharedLength (s.numberedIn (.ofSections sections)).chunks
              (t.numberedIn (.ofSections sections)).chunks =
            sharedLength s.chunks t.chunks := by
  refine ⟨(resolveSections_eq_ok_iff.mp success).2, ?_, ?_⟩
  · intro s member n rank
    have bound := Hierarchy.le_length_of_mem_ranksBelow (Section.hasNode_chunks member) rank
    simpa [Hierarchy.ofSections] using bound
  · intro s sMember t tMember sText tText
    exact Section.sharedLength_numberedIn sMember tMember sText tText

def sampleWeight : Weight := ⟨1, by decide, by decide⟩

/-- A reference numbered by hand, and a branch that its weight moves behind its sibling. -/
def sampleSections : List Section :=
  [{ reference := ['b'] },
    { reference := ['A', '.', 'c'] },
    { reference := ['a'], weight := sampleWeight },
    { reference := ['7'] }]

def sampleNumbered : List Section :=
  [{ reference := ['7'] },
    { reference := ['2'], stringReference := some ['b'] },
    { reference := ['3'], stringReference := some ['a'], weight := sampleWeight },
    { reference := ['3', '.', '1'], stringReference := some ['A', '.', 'c'] }]

theorem resolveSections_sample : resolveSections sampleSections = .ok sampleNumbered := by
  have permuted : sampleSections.Perm
      [{ reference := ['7'] },
        { reference := ['b'] },
        { reference := ['a'], weight := sampleWeight },
        { reference := ['A', '.', 'c'] }] := by decide +kernel
  rw [resolveSections_of_sorted permuted (by decide +kernel) (by decide +kernel)]
  rfl

theorem sampleNumbered_by_rank :
    sampleNumbered =
      (sortSections sampleSections).map (Section.numberedIn (.ofSections sampleSections)) :=
  (resolveSections_numbers_by_rank resolveSections_sample).1

/-- Resolution fails exactly when two sections share a normalized or a final reference, and text
references can only share a normalized one. Its collisions are honest: they name two sections in
their display order, with the reference of the later one, that do conflict. -/
theorem resolveSections_fails_on_conflicts (sections : List Section) :
    ((∃ resolved, resolveSections sections = .ok resolved) ↔
      (sections.map fun s => Reference.normalize s.reference).Nodup ∧
        (sections.map (Section.finalReference (.ofSections sections))).Nodup) ∧
    ((∀ s ∈ sections, s.hasNumericReference = false) →
      ((∃ resolved, resolveSections sections = .ok resolved) ↔
        (sections.map fun s => Reference.normalize s.reference).Nodup)) ∧
    ((∀ s ∈ sections, s.stringReference = none) → ∀ collision,
      resolveSections sections = .error collision →
        ∃ before s between t after,
          sortSections sections = before ++ s :: (between ++ t :: after) ∧
          collision = ⟨s.header, t.header, t.reference⟩ ∧
          (Reference.normalize s.reference = Reference.normalize t.reference ∨
            s.finalReference (.ofSections sections) =
              t.finalReference (.ofSections sections))) := by
  have succeeds : (∃ resolved, resolveSections sections = .ok resolved) ↔
      (sections.map fun s => Reference.normalize s.reference).Nodup ∧
        (sections.map (Section.finalReference (.ofSections sections))).Nodup := by
    simp only [resolveSections_eq_ok_iff, exists_and_left, exists_eq, and_true]
  refine ⟨succeeds, ?_, ?_⟩
  · intro text
    rw [succeeds, and_iff_left_iff_imp]
    exact nodup_finalReference_of_text text
  · intro fresh collision failure
    rcases names_of_resolveSections_eq_error failure with
      ⟨before, s, between, t, after, sorted, conflict, first, second, reference⟩
    have member : t ∈ sections := by
      rw [← mem_sortSections, sorted]
      simp
    refine ⟨before, s, between, t, after, sorted, ?_, conflict⟩
    rw [← first, ← second, ← reference (fresh t member)]

/-- The number given by hand is the one that the text reference would get. -/
def clashingSections : List Section :=
  [{ header := ['p'], reference := ['3'] },
    { header := ['q'], reference := ['z'] },
    { header := ['r'], reference := ['1'] }]

theorem resolveSections_clashing :
    resolveSections clashingSections = .error ⟨['p'], ['q'], ['z']⟩ := by
  have permuted : clashingSections.Perm
      [{ header := ['r'], reference := ['1'] },
        { header := ['p'], reference := ['3'] },
        { header := ['q'], reference := ['z'] }] := by decide +kernel
  rw [resolveSections_of_sorted permuted (by decide +kernel) (by decide +kernel)]
  rfl

theorem clashingSections_conflict :
    ∃ before s between t after,
      sortSections clashingSections = before ++ s :: (between ++ t :: after) ∧
      (⟨['p'], ['q'], ['z']⟩ : Collision) = ⟨s.header, t.header, t.reference⟩ ∧
      (Reference.normalize s.reference = Reference.normalize t.reference ∨
        s.finalReference (.ofSections clashingSections) =
          t.finalReference (.ofSections clashingSections)) :=
  (resolveSections_fails_on_conflicts clashingSections).2.2 (by decide) _ resolveSections_clashing

end StyleCatalog
