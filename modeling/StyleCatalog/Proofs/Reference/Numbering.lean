import StyleCatalog.Proofs.Reference.Walk

/-! # The walk over sorted sections

What numbering does to sections in display order: every section gets the number of its place in the
hierarchy, unless it conflicts with one that was passed before it.
-/

namespace StyleCatalog

open Std Reference

namespace Section

/-- The reference that a section ends up with: a number given by hand, or else the ranks of its
steps. -/
def finalReference (hierarchy : Hierarchy) (s : Section) : Text :=
  if s.hasNumericReference then s.reference
  else Numbering.numberOf (hierarchy.ranks s.chunks)

/-- The section with the number of its place in the hierarchy. A number given by hand stays. -/
def numberedIn (hierarchy : Hierarchy) (s : Section) : Section :=
  if s.hasNumericReference then s
  else
    { s with
      reference := Numbering.numberOf (hierarchy.ranks s.chunks)
      stringReference := some s.reference }

/-- Two sections cannot both be numbered. -/
def Conflicts (hierarchy : Hierarchy) (s t : Section) : Prop :=
  Reference.normalize s.reference = Reference.normalize t.reference ∨
    s.finalReference hierarchy = t.finalReference hierarchy

theorem finalReference_of_numeric (hierarchy : Hierarchy) {s : Section}
    (numeric : s.hasNumericReference = true) : s.finalReference hierarchy = s.reference := by
  rw [finalReference, if_pos numeric]

theorem finalReference_of_text (hierarchy : Hierarchy) {s : Section}
    (text : s.hasNumericReference = false) :
    s.finalReference hierarchy = Numbering.numberOf (hierarchy.ranks s.chunks) := by
  rw [finalReference, if_neg (by simp [text])]

theorem reference_numberedIn (hierarchy : Hierarchy) (s : Section) :
    (s.numberedIn hierarchy).reference = s.finalReference hierarchy := by
  rw [numberedIn, finalReference]
  split <;> rfl

theorem stringReference_numberedIn (hierarchy : Hierarchy) {s : Section}
    (fresh : s.stringReference = none) :
    (s.numberedIn hierarchy).stringReference.getD (s.numberedIn hierarchy).reference =
      s.reference := by
  rw [numberedIn]
  split
  · rw [fresh]
    rfl
  · rfl

end Section

namespace Hierarchy

/-- The sections are those of the hierarchy, in display order. -/
structure Displays (hierarchy : Hierarchy) (sections : List Section) : Prop where
  sorted : sections.Pairwise fun s t => s.mayPrecede hierarchy.weights t = true
  places : ∀ place, place ∈ hierarchy.places ↔ place ∈ sections.map Section.chunks

theorem displays_sortSections (sections : List Section) :
    (ofSections sections).Displays (sortSections sections) where
  sorted := sortSections_pairwise sections
  places _ := ((sortSections_perm sections).map Section.chunks).mem_iff.symm

end Hierarchy

namespace Numbering

/-! ## Given references -/

theorem mem_of_holder?_eq_some {reference header : Text} {assigned : List (Text × Text)}
    (held : holder? reference assigned = some header) : (reference, header) ∈ assigned := by
  induction assigned with
  | nil => cases held
  | cons entry rest induction =>
      rw [holder?] at held
      split at held
      · rename_i same
        cases held
        rw [← same]
        exact List.mem_cons_self
      · exact List.mem_cons_of_mem entry (induction held)

theorem ne_of_holder?_eq_none {reference : Text} {assigned : List (Text × Text)}
    (unheld : holder? reference assigned = none) {entry : Text × Text}
    (member : entry ∈ assigned) : entry.1 ≠ reference := by
  induction assigned with
  | nil => cases member
  | cons first rest induction =>
      rw [holder?] at unheld
      split at unheld
      · cases unheld
      · rename_i different
        rcases List.mem_cons.mp member with rfl | later
        · exact different
        · exact induction unheld later

/-! ## The invariant -/

/-- What the walk remembers after the sections `passed`. -/
structure Tracks (hierarchy : Hierarchy) (passed : List Section) (state : Numbering) : Prop where
  path : state.path = hierarchy.ranks state.previous
  last : (passed = [] ∧ state.previous = []) ∨
    ∃ s ∈ passed, s.chunks = state.previous ∧ s.header = state.previousHeader
  latest : ∀ s ∈ passed, (compareChunks hierarchy.weights s.chunks state.previous).isLE
  assigned : state.assigned =
    (passed.map fun s => (s.finalReference hierarchy, s.header)).reverse
  free : passed.Pairwise fun s t => ¬s.Conflicts hierarchy t

theorem tracks_start (hierarchy : Hierarchy) : Tracks hierarchy [] {} where
  path := rfl
  last := .inl ⟨rfl, rfl⟩
  latest _ member := by cases member
  assigned := rfl
  free := .nil

section Step

variable {hierarchy : Hierarchy} {passed rest : List Section} {s : Section} {state : Numbering}

theorem Tracks.adjacent (tracks : Tracks hierarchy passed state)
    (displays : hierarchy.Displays (passed ++ s :: rest)) :
    hierarchy.Adjacent state.previous s.chunks := by
  intro place member
  rcases List.mem_map.mp ((displays.places place).mp member) with ⟨t, tMember, rfl⟩
  rcases List.mem_append.mp tMember with before | after
  · exact .inl (tracks.latest t before)
  · rcases List.mem_cons.mp after with rfl | later
    · exact .inr ReflCmp.isLE_rfl
    · have sorted := (List.pairwise_append.mp displays.sorted).2.1
      exact .inr ((List.pairwise_cons.mp sorted).1 t later)

theorem Tracks.known (tracks : Tracks hierarchy passed state)
    (displays : hierarchy.Displays (passed ++ s :: rest)) :
    state.previous = [] ∨ state.previous ∈ hierarchy.places := by
  rcases tracks.last with ⟨-, empty⟩ | ⟨t, member, place, -⟩
  · exact .inl empty
  · refine .inr ((displays.places _).mpr ?_)
    rw [← place]
    exact List.mem_map_of_mem (List.mem_append_left _ member)

theorem Tracks.previous_isLE (tracks : Tracks hierarchy passed state)
    (displays : hierarchy.Displays (passed ++ s :: rest)) :
    (compareChunks hierarchy.weights state.previous s.chunks).isLE := by
  rcases tracks.last with ⟨-, empty⟩ | ⟨t, member, place, -⟩
  · rw [empty]
    cases s.chunks <;> rfl
  · rw [← place]
    exact (List.pairwise_append.mp displays.sorted).2.2 t member s List.mem_cons_self

theorem advance_of_isPrefix (within : s.chunks <+: state.previous) :
    state.advance s = .error ⟨state.previousHeader, s.header, s.reference⟩ := by
  rw [advance]
  exact if_pos (length_le_sharedLength_iff.mpr within)

/-- What the walk holds once it has numbered a section. -/
def passing (hierarchy : Hierarchy) (s : Section) (state : Numbering) : Numbering where
  path := hierarchy.ranks s.chunks
  previous := s.chunks
  previousHeader := s.header
  assigned := (s.finalReference hierarchy, s.header) :: state.assigned

theorem Tracks.advance_of_lt (tracks : Tracks hierarchy passed state)
    (displays : hierarchy.Displays (passed ++ s :: rest))
    (less : compareChunks hierarchy.weights state.previous s.chunks = .lt) :
    state.advance s =
      match holder? (s.finalReference hierarchy) state.assigned with
      | some header =>
        .error ⟨header, s.header, (s.numberedIn hierarchy).stringReference.getD
          (s.numberedIn hierarchy).reference⟩
      | none => .ok (s.numberedIn hierarchy, passing hierarchy s state) := by
  have moved := Hierarchy.nextPath_ranks (tracks.known displays) (tracks.adjacent displays) less
  have renumbered : renumber s (hierarchy.ranks s.chunks) = s.numberedIn hierarchy := rfl
  rw [← Section.reference_numberedIn, advance, tracks.path]
  simp only [moved.2, renumbered, Nat.not_le.mpr moved.1, if_false]
  cases holder? (s.numberedIn hierarchy).reference state.assigned with
  | some header => rfl
  | none => rw [passing, Section.reference_numberedIn]

theorem Tracks.not_conflicts (tracks : Tracks hierarchy passed state)
    (less : compareChunks hierarchy.weights state.previous s.chunks = .lt)
    (unheld : holder? (s.finalReference hierarchy) state.assigned = none) :
    ∀ t ∈ passed, ¬t.Conflicts hierarchy s := by
  rintro t member (samePlace | sameReference)
  · have strict := TransCmp.lt_of_isLE_of_lt (tracks.latest t member) less
    have tie : compareChunks hierarchy.weights t.chunks s.chunks = .eq :=
      compareChunks_eq_eq_iff.mpr (chunks_eq_iff.mpr samePlace)
    rw [tie] at strict
    cases strict
  · have given : (t.finalReference hierarchy, t.header) ∈ state.assigned := by
      rw [tracks.assigned, List.mem_reverse]
      exact List.mem_map.mpr ⟨t, member, rfl⟩
    exact ne_of_holder?_eq_none unheld given sameReference

theorem Tracks.pass (tracks : Tracks hierarchy passed state)
    (displays : hierarchy.Displays (passed ++ s :: rest))
    (less : compareChunks hierarchy.weights state.previous s.chunks = .lt)
    (unheld : holder? (s.finalReference hierarchy) state.assigned = none) :
    Tracks hierarchy (passed ++ [s]) (passing hierarchy s state) where
  path := rfl
  last := .inr ⟨s, by simp, rfl, rfl⟩
  latest := by
    intro t member
    rcases List.mem_append.mp member with before | here
    · exact (List.pairwise_append.mp displays.sorted).2.2 t before s List.mem_cons_self
    · rw [List.mem_singleton.mp here]
      exact ReflCmp.isLE_rfl
  assigned := by simp [passing, tracks.assigned]
  free := by
    rw [List.pairwise_append]
    refine ⟨tracks.free, List.pairwise_singleton _ _, ?_⟩
    intro t member u here
    rw [List.mem_singleton.mp here]
    exact tracks.not_conflicts less unheld t member

/-- One step of the walk numbers a section by its place, or finds a section that was passed before
and conflicts with it. -/
theorem Tracks.advance_cases (tracks : Tracks hierarchy passed state)
    (displays : hierarchy.Displays (passed ++ s :: rest)) :
    (∃ next, state.advance s = .ok (s.numberedIn hierarchy, next) ∧
      Tracks hierarchy (passed ++ [s]) next) ∨
    ∃ t ∈ passed, t.Conflicts hierarchy s ∧ ∃ reference,
      state.advance s = .error ⟨t.header, s.header, reference⟩ ∧
        (s.stringReference = none → reference = s.reference) := by
  rcases Ordering.isLE_iff_eq_lt_or_eq_eq.mp (tracks.previous_isLE displays) with less | tie
  · have moved := tracks.advance_of_lt displays less
    cases held : holder? (s.finalReference hierarchy) state.assigned with
    | none =>
        rw [held] at moved
        exact .inl ⟨_, moved, tracks.pass displays less held⟩
    | some header =>
        rw [held] at moved
        have given := mem_of_holder?_eq_some held
        rw [tracks.assigned, List.mem_reverse, List.mem_map] at given
        rcases given with ⟨t, member, holder⟩
        have sameReference := congrArg Prod.fst holder
        have sameHeader : t.header = header := congrArg Prod.snd holder
        refine .inr ⟨t, member, .inr sameReference, _, sameHeader ▸ moved, ?_⟩
        exact Section.stringReference_numberedIn hierarchy
  · -- Sections with equal references are neighbours, so the last one passed is the other one.
    have place : state.previous = s.chunks := compareChunks_eq_eq_iff.mp tie
    rcases tracks.last with ⟨-, empty⟩ | ⟨t, member, tPlace, tHeader⟩
    · exact absurd (place.symm.trans empty) (chunks_ne_nil s.reference)
    · have within : s.chunks <+: state.previous := place ▸ List.prefix_rfl
      refine .inr ⟨t, member, .inl (chunks_eq_iff.mp (tPlace.trans place)), s.reference, ?_⟩
      rw [tHeader]
      exact ⟨advance_of_isPrefix within, fun _ => rfl⟩

end Step

/-! ## The whole walk -/

theorem advanceAll_cons_of_ok {state next : Numbering} {s numbered : Section}
    (moved : state.advance s = .ok (numbered, next)) (rest : List Section) :
    state.advanceAll (s :: rest) = (next.advanceAll rest).map (numbered :: ·) := by
  rw [advanceAll, moved]

theorem advanceAll_cons_of_error {state : Numbering} {s : Section} {collision : Collision}
    (failed : state.advance s = .error collision) (rest : List Section) :
    state.advanceAll (s :: rest) = .error collision := by
  rw [advanceAll, failed]

/-- A collision names two sections of a list, in their order, that conflict. -/
def Names (hierarchy : Hierarchy) (sections : List Section) (collision : Collision) : Prop :=
  ∃ before s between t after, sections = before ++ s :: (between ++ t :: after) ∧
    s.Conflicts hierarchy t ∧ collision.previous = s.header ∧ collision.current = t.header ∧
    (t.stringReference = none → collision.reference = t.reference)

/-- The walk numbers all sections by their places if none of them conflict, and otherwise names two
that do. -/
theorem Tracks.advanceAll_cases {hierarchy : Hierarchy} {passed rest : List Section}
    {state : Numbering} (tracks : Tracks hierarchy passed state)
    (displays : hierarchy.Displays (passed ++ rest)) :
    (state.advanceAll rest = .ok (rest.map (Section.numberedIn hierarchy)) ∧
      (passed ++ rest).Pairwise fun s t => ¬s.Conflicts hierarchy t) ∨
    ∃ collision, state.advanceAll rest = .error collision ∧
      Names hierarchy (passed ++ rest) collision := by
  -- A numbered section moves from `rest` to `passed`; their concatenation stays the same.
  induction rest generalizing passed state with
  | nil => exact .inl ⟨rfl, by simpa using tracks.free⟩
  | cons s rest induction =>
      rcases tracks.advance_cases displays with
        ⟨next, moved, nextTracks⟩ | ⟨t, member, conflict, reference, failed, fresh⟩
      · have later := induction nextTracks (by simpa using displays)
        rw [List.append_assoc, List.singleton_append] at later
        rw [advanceAll_cons_of_ok moved]
        rcases later with ⟨walked, free⟩ | ⟨collision, walked, named⟩
        · exact .inl ⟨by rw [walked]; rfl, free⟩
        · exact .inr ⟨collision, by rw [walked]; rfl, named⟩
      · rcases List.append_of_mem member with ⟨before, between, rfl⟩
        refine .inr ⟨_, advanceAll_cons_of_error failed rest, ?_⟩
        exact ⟨before, t, between, s, rest, by simp, conflict, rfl, rfl, fresh⟩

end Numbering

theorem resolveSections_cases (sections : List Section) :
    (resolveSections sections =
        .ok ((sortSections sections).map (Section.numberedIn (.ofSections sections))) ∧
      (sortSections sections).Pairwise fun s t => ¬s.Conflicts (.ofSections sections) t) ∨
    ∃ collision, resolveSections sections = .error collision ∧
      Numbering.Names (.ofSections sections) (sortSections sections) collision := by
  have started := Numbering.tracks_start (Hierarchy.ofSections sections)
  exact started.advanceAll_cases (Hierarchy.displays_sortSections sections)

end StyleCatalog
