import Mathlib.Data.List.Chain
import StyleCatalog.Comment.Error
import StyleCatalog.Proofs.Reference.Numbering

/-! # Numbering sections in any order

Sections need not be sorted for the walk to give each of them a number of its own. Every step makes
the counters greater in lexicographic order, so a number that was counted never comes back. If all
references are text, the walk refuses only one that repeats steps of the reference before it and
adds none.
-/

namespace StyleCatalog

open Reference

namespace Numbering

/-! ## One step -/

/-- The counters to which the walk moves on with a section. -/
def pathTo (state : Numbering) (s : Section) : List Nat :=
  nextPath state.path (sharedLength s.chunks state.previous) s.chunks.length

/-- What the walk remembers once it has numbered a section. -/
def after (state : Numbering) (s : Section) : Numbering where
  path := state.pathTo s
  previous := s.chunks
  previousHeader := s.header
  assigned := ((renumber s (state.pathTo s)).reference, s.header) :: state.assigned

section Step

variable {state next : Numbering} {s t : Section} {passed : Nat}

theorem advance_of_not_isPrefix (leaves : ¬s.chunks <+: state.previous) :
    state.advance s =
      match holder? (renumber s (state.pathTo s)).reference state.assigned with
      | some header =>
        .error ⟨header, s.header, (renumber s (state.pathTo s)).stringReference.getD
          (renumber s (state.pathTo s)).reference⟩
      | none => .ok (renumber s (state.pathTo s), state.after s) := by
  rw [advance]
  exact if_neg (mt length_le_sharedLength_iff.mp leaves)

theorem of_advance_eq_ok (moved : state.advance s = .ok (t, next)) :
    ¬s.chunks <+: state.previous ∧ t = renumber s (state.pathTo s) ∧ next = state.after s := by
  by_cases within : s.chunks <+: state.previous
  · rw [advance_of_isPrefix within] at moved
    cases moved
  · rw [advance_of_not_isPrefix within] at moved
    split at moved
    · cases moved
    · cases moved
      exact ⟨within, rfl, rfl⟩

/-- The walk has a counter for every step of the last reference, and no counter is ahead of the
number of sections that it has passed. -/
structure Counts (state : Numbering) (passed : Nat) : Prop where
  depth : state.path.length = state.previous.length
  counters : ∀ n ∈ state.path, 1 ≤ n ∧ n ≤ passed

theorem counts_start : Counts {} 0 where
  depth := rfl
  counters n member := by cases member

/-- Counters move on by leaving those below the shared steps and counting the next step. -/
theorem Counts.exists_pathTo (counts : state.Counts passed)
    (leaves : ¬s.chunks <+: state.previous) :
    ∃ kept rest more, state.path = kept ++ rest ∧
      state.pathTo s = kept ++ (rest.headD 0 + 1) :: List.replicate more 1 ∧
      s.chunks.length = kept.length + (more + 1) := by
  have shared := sharedLength_le_right s.chunks state.previous
  have fewer := mt length_le_sharedLength_iff.mp leaves
  have keptLength : (state.path.take (sharedLength s.chunks state.previous)).length =
      sharedLength s.chunks state.previous := by
    rw [List.length_take, counts.depth]
    omega
  obtain ⟨more, size⟩ : ∃ more, s.chunks.length =
      sharedLength s.chunks state.previous + (more + 1) :=
    ⟨s.chunks.length - sharedLength s.chunks state.previous - 1, by omega⟩
  have moved := Hierarchy.nextPath_append (state.path.take (sharedLength s.chunks state.previous))
    (state.path.drop (sharedLength s.chunks state.previous)) more
  rw [List.take_append_drop, keptLength, ← size] at moved
  exact ⟨_, _, more, (List.take_append_drop _ _).symm, moved, by rw [keptLength, size]⟩

theorem Counts.path_lex_pathTo (counts : state.Counts passed)
    (leaves : ¬s.chunks <+: state.previous) :
    List.Lex (· < ·) state.path (state.pathTo s) := by
  rcases counts.exists_pathTo leaves with ⟨kept, rest, more, path, moved, -⟩
  rw [path, moved]
  apply List.append_left_lt
  cases rest with
  | nil => exact .nil
  | cons n others => exact .rel (Nat.lt_succ_self n)

theorem Counts.after (counts : state.Counts passed) (leaves : ¬s.chunks <+: state.previous) :
    (state.after s).Counts (passed + 1) := by
  rcases counts.exists_pathTo leaves with ⟨kept, rest, more, path, moved, size⟩
  have counters := counts.counters
  rw [path] at counters
  constructor
  · change (state.pathTo s).length = s.chunks.length
    rw [moved, size, List.length_append, List.length_cons, List.length_replicate]
  · intro n member
    change n ∈ state.pathTo s at member
    rw [moved, List.mem_append, List.mem_cons] at member
    rcases member with old | counted | opened
    · have bounds := counters n (List.mem_append_left rest old)
      omega
    · cases rest with
      | nil =>
          change n = 0 + 1 at counted
          omega
      | cons m others =>
          have bounds := counters m (by simp)
          change n = m + 1 at counted
          omega
    · have one := List.eq_of_mem_replicate opened
      omega

end Step

/-! ## The whole walk -/

/-- What the walk remembers after each section, as long as it goes on. -/
def trail (state : Numbering) : List Section → List Numbering
  | [] => []
  | s :: rest =>
    match state.advance s with
    | .error _ => []
    | .ok (_, next) => next :: next.trail rest

theorem trail_cons_cases (state : Numbering) (s : Section) (rest : List Section) :
    (∃ collision, state.advance s = .error collision ∧ state.trail (s :: rest) = []) ∨
      ∃ next, ¬s.chunks <+: state.previous ∧ next = state.after s ∧
        state.advance s = .ok (renumber s next.path, next) ∧
        state.trail (s :: rest) = next :: next.trail rest := by
  cases moved : state.advance s with
  | error collision => exact .inl ⟨collision, rfl, by rw [trail, moved]⟩
  | ok step =>
      rcases step with ⟨numbered, next⟩
      rcases of_advance_eq_ok moved with ⟨leaves, rfl, rfl⟩
      exact .inr ⟨_, leaves, rfl, rfl, by rw [trail, moved]⟩

theorem length_trail_le (state : Numbering) (sections : List Section) :
    (state.trail sections).length ≤ sections.length := by
  induction sections generalizing state with
  | nil => exact Nat.le_refl _
  | cons s rest induction =>
      rcases state.trail_cons_cases s rest with ⟨collision, -, stopped⟩ | ⟨next, -, -, -, goesOn⟩
      · rw [stopped]
        exact Nat.zero_le _
      · rw [goesOn]
        exact Nat.succ_le_succ (induction next)

theorem advanceAll_eq_ok_iff {state : Numbering} {sections numbered : List Section} :
    state.advanceAll sections = .ok numbered ↔
      (state.trail sections).length = sections.length ∧
        numbered = List.zipWith renumber sections ((state.trail sections).map path) := by
  induction sections generalizing state numbered with
  | nil => simp [advanceAll, trail, eq_comm]
  | cons s rest induction =>
      rcases state.trail_cons_cases s rest with
        ⟨collision, failed, stopped⟩ | ⟨next, -, -, moved, goesOn⟩
      · rw [advanceAll_cons_of_error failed, stopped]
        simp
      · rw [advanceAll_cons_of_ok moved, goesOn]
        constructor
        · intro success
          rcases exists_of_map_eq_ok success with ⟨later, walked, rfl⟩
          rcases induction.mp walked with ⟨size, rfl⟩
          exact ⟨congrArg Nat.succ size, rfl⟩
        · intro both
          have walked := induction.mpr ⟨Nat.succ.inj both.1, rfl⟩
          rw [walked, both.2]
          rfl

theorem Counts.trail_bounds {state : Numbering} {passed : Nat} (counts : state.Counts passed)
    (sections : List Section) :
    ∀ i s later, sections[i]? = some s → (state.trail sections)[i]? = some later →
      later.path.length = s.chunks.length ∧ ∀ n ∈ later.path, 1 ≤ n ∧ n ≤ passed + (i + 1) := by
  induction sections generalizing state passed with
  | nil =>
      intro i s later here
      simp at here
  | cons first rest induction =>
      intro i s later here reached
      rcases state.trail_cons_cases first rest with
        ⟨collision, -, stopped⟩ | ⟨next, leaves, rfl, -, goesOn⟩
      · rw [stopped] at reached
        simp at reached
      · rw [goesOn] at reached
        have moved := counts.after leaves
        cases i with
        | zero =>
            cases here
            cases reached
            exact ⟨moved.depth, moved.counters⟩
        | succ i =>
            have bounds := induction moved i s later here reached
            rw [Nat.add_assoc, Nat.add_comm 1] at bounds
            exact bounds

theorem Counts.trail_ascends {state : Numbering} {passed : Nat} (counts : state.Counts passed)
    (sections : List Section) :
    (state :: state.trail sections).Pairwise fun earlier later =>
      List.Lex (· < ·) earlier.path later.path := by
  induction sections generalizing state passed with
  | nil => exact List.pairwise_singleton _ _
  | cons s rest induction =>
      rcases state.trail_cons_cases s rest with
        ⟨collision, -, stopped⟩ | ⟨next, leaves, rfl, -, goesOn⟩
      · rw [stopped]
        exact List.pairwise_singleton _ _
      · have ascends := induction (counts.after leaves)
        rw [goesOn, List.pairwise_cons]
        refine ⟨?_, ascends⟩
        -- What comes after the next counters is greater than they are, and they have just grown.
        intro later member
        have first := counts.path_lex_pathTo leaves
        rcases List.mem_cons.mp member with rfl | beyond
        · exact first
        · exact List.lex_trans Nat.lt_trans first ((List.pairwise_cons.mp ascends).1 later beyond)

/-! ## Text references -/

theorem reference_renumber_of_text {s : Section} (text : s.hasNumericReference = false)
    (path : List Nat) : (renumber s path).reference = numberOf path := by
  rw [renumber, if_neg (by simp [text])]

/-- All references given out so far are counted, and none is ahead of the counters. -/
def GivesCounted (state : Numbering) : Prop :=
  ∀ entry ∈ state.assigned, ∃ path ≠ [],
    (path = state.path ∨ List.Lex (· < ·) path state.path) ∧ entry.1 = numberOf path

section TextStep

variable {state : Numbering} {s : Section} {passed : Nat}

theorem Counts.lex_pathTo (counts : state.Counts passed) (leaves : ¬s.chunks <+: state.previous)
    {path : List Nat} (notAhead : path = state.path ∨ List.Lex (· < ·) path state.path) :
    List.Lex (· < ·) path (state.pathTo s) := by
  have grows := counts.path_lex_pathTo leaves
  rcases notAhead with rfl | less
  · exact grows
  · exact List.lex_trans Nat.lt_trans less grows

theorem Counts.pathTo_ne_nil (counts : state.Counts passed)
    (leaves : ¬s.chunks <+: state.previous) : state.pathTo s ≠ [] := by
  rcases counts.exists_pathTo leaves with ⟨kept, rest, more, -, moved, -⟩
  simp [moved]

/-- A counted number is new. -/
theorem Counts.holder?_eq_none (counts : state.Counts passed) (given : state.GivesCounted)
    (leaves : ¬s.chunks <+: state.previous) :
    holder? (numberOf (state.pathTo s)) state.assigned = none := by
  cases held : holder? (numberOf (state.pathTo s)) state.assigned with
  | none => rfl
  | some header =>
      rcases given _ (mem_of_holder?_eq_some held) with ⟨path, some, notAhead, same⟩
      have less := counts.lex_pathTo leaves notAhead
      rw [numberOf_injective (counts.pathTo_ne_nil leaves) some same] at less
      exact absurd less (List.lex_irrefl Nat.lt_irrefl path)

theorem Counts.advance_text (counts : state.Counts passed) (given : state.GivesCounted)
    (text : s.hasNumericReference = false) (leaves : ¬s.chunks <+: state.previous) :
    state.advance s = .ok (renumber s (state.pathTo s), state.after s) := by
  rw [advance_of_not_isPrefix leaves, reference_renumber_of_text text,
    counts.holder?_eq_none given leaves]

theorem Counts.givesCounted_after (counts : state.Counts passed) (given : state.GivesCounted)
    (text : s.hasNumericReference = false) (leaves : ¬s.chunks <+: state.previous) :
    (state.after s).GivesCounted := by
  intro entry member
  rcases List.mem_cons.mp member with rfl | earlier
  · exact ⟨state.pathTo s, counts.pathTo_ne_nil leaves, .inl rfl,
      reference_renumber_of_text text _⟩
  · rcases given entry earlier with ⟨path, some, notAhead, same⟩
    exact ⟨path, some, .inr (counts.lex_pathTo leaves notAhead), same⟩

end TextStep

/-- Every section leaves the steps of the one before it. -/
def MovesOn (sections : List Section) : Prop :=
  sections.IsChain fun s t => ¬t.chunks <+: s.chunks

/-- The first two neighbours of which the second has no step that the first one lacks. -/
def FirstRepetition (sections : List Section) (s t : Section) : Prop :=
  ∃ before after, sections = before ++ s :: t :: after ∧ MovesOn (before ++ [s]) ∧
    t.chunks <+: s.chunks

theorem FirstRepetition.cons {first s t last : Section} {rest : List Section}
    (repetition : FirstRepetition (first :: rest) s t) (leaves : ¬first.chunks <+: last.chunks) :
    FirstRepetition (last :: first :: rest) s t := by
  rcases repetition with ⟨before, after, split, chain, repeated⟩
  refine ⟨last :: before, after, by rw [split]; rfl, ?_, repeated⟩
  cases before with
  | nil =>
      cases split
      exact List.isChain_cons_cons.mpr ⟨leaves, chain⟩
  | cons head others =>
      cases split
      exact List.isChain_cons_cons.mpr ⟨leaves, chain⟩

/-- Among text references the walk stops exactly at the first one whose steps are all shared with
the one before it. -/
theorem Counts.advanceAll_text {state : Numbering} {passed : Nat} {last : Section}
    {sections : List Section} (counts : state.Counts passed) (given : state.GivesCounted)
    (place : state.previous = last.chunks) (header : state.previousHeader = last.header)
    (text : ∀ s ∈ sections, s.hasNumericReference = false) :
    ((∃ numbered, state.advanceAll sections = .ok numbered) ∧ MovesOn (last :: sections)) ∨
    ∃ s t, FirstRepetition (last :: sections) s t ∧
      state.advanceAll sections = .error ⟨s.header, t.header, t.reference⟩ := by
  -- `last` is the section just passed, so that every section of the walk has one before it.
  induction sections generalizing state passed last with
  | nil => exact .inl ⟨⟨[], rfl⟩, .singleton last⟩
  | cons s rest induction =>
      by_cases within : s.chunks <+: state.previous
      · have failed := advance_of_isPrefix within
        rw [header] at failed
        rw [place] at within
        exact .inr ⟨last, s, ⟨[], rest, rfl, .singleton last, within⟩,
          advanceAll_cons_of_error failed rest⟩
      · have sText := text s List.mem_cons_self
        have moved := counts.advance_text given sText within
        have later := induction (counts.after within) (counts.givesCounted_after given sText within)
          rfl rfl fun t member => text t (List.mem_cons_of_mem s member)
        rw [advanceAll_cons_of_ok moved]
        rw [place] at within
        rcases later with ⟨⟨numbered, walked⟩, chain⟩ | ⟨u, t, repetition, walked⟩
        · exact .inl ⟨⟨_, by rw [walked]; rfl⟩, List.isChain_cons_cons.mpr ⟨within, chain⟩⟩
        · exact .inr ⟨u, t, repetition.cons within, by rw [walked]; rfl⟩

end Numbering

open StyleCatalog.Numbering

/-! ## The numbers of a list of sections -/

/-- The counters after each section, as long as numbering goes on. -/
def pathsOf (sections : List Section) : List (List Nat) :=
  (Numbering.trail {} sections).map path

theorem length_pathsOf_le (sections : List Section) :
    (pathsOf sections).length ≤ sections.length := by
  rw [pathsOf, List.length_map]
  exact length_trail_le {} sections

theorem numberSections_eq_ok_iff {sections numbered : List Section} :
    numberSections sections = .ok numbered ↔
      (pathsOf sections).length = sections.length ∧
        numbered = List.zipWith renumber sections (pathsOf sections) := by
  rw [pathsOf, List.length_map]
  exact advanceAll_eq_ok_iff

theorem pathsOf_bounds {sections : List Section} {i : Nat} {s : Section} {path : List Nat}
    (here : sections[i]? = some s) (reached : (pathsOf sections)[i]? = some path) :
    path.length = s.chunks.length ∧ ∀ n ∈ path, 1 ≤ n ∧ n ≤ i + 1 := by
  rw [pathsOf, List.getElem?_map, Option.map_eq_some_iff] at reached
  rcases reached with ⟨later, reached, rfl⟩
  have bounds := counts_start.trail_bounds sections i s later here reached
  rwa [Nat.zero_add] at bounds

theorem pathsOf_ascend (sections : List Section) :
    ([] :: pathsOf sections).Pairwise (List.Lex (· < ·)) := by
  have ascends := counts_start.trail_ascends sections
  exact List.pairwise_map.mpr ascends

/-- The references that numbering has counted, as long as it goes on. -/
def countedReferences (sections : List Section) : List Text :=
  ((sections.zip (pathsOf sections)).filter fun entry => !entry.1.hasNumericReference).map
    fun entry => (renumber entry.1 entry.2).reference

theorem ne_nil_of_mem_pathsOf {sections : List Section} {path : List Nat}
    (reached : path ∈ pathsOf sections) : path ≠ [] := by
  intro empty
  have ascends := (List.pairwise_cons.mp (pathsOf_ascend sections)).1 path reached
  rw [empty] at ascends
  cases ascends

theorem nodup_countedReferences (sections : List Section) : (countedReferences sections).Nodup := by
  have apart : (sections.zip (pathsOf sections)).Pairwise fun entry later =>
      List.Lex (· < ·) entry.2 later.2 := by
    have paths := (List.pairwise_cons.mp (pathsOf_ascend sections)).2
    rw [← List.map_snd_zip (length_pathsOf_le sections)] at paths
    exact List.pairwise_map.mp paths
  rw [countedReferences, List.Nodup, List.pairwise_map, List.pairwise_filter]
  apply apart.imp_of_mem
  intro entry later member laterMember less text laterText same
  have some := ne_nil_of_mem_pathsOf (List.of_mem_zip member).2
  have laterSome := ne_nil_of_mem_pathsOf (List.of_mem_zip laterMember).2
  rw [reference_renumber_of_text (by simpa using text),
    reference_renumber_of_text (by simpa using laterText)] at same
  -- Equal numbers have equal counters, but those of the later section are greater.
  rw [numberOf_injective some laterSome same] at less
  exact List.lex_irrefl Nat.lt_irrefl _ less

theorem lt_of_mem_pathsOf {sections : List Section} {path : List Nat} {n limit : Nat}
    (few : sections.length < limit) (reached : path ∈ pathsOf sections) (member : n ∈ path) :
    n < limit := by
  rcases List.getElem?_of_mem reached with ⟨i, here⟩
  have before := (List.getElem?_eq_some_iff.mp here).1
  have size := length_pathsOf_le sections
  have inSections : i < sections.length := by omega
  have bounds := (pathsOf_bounds (List.getElem?_eq_getElem inSections) here).2 n member
  omega

theorem numberSections_text {sections : List Section}
    (text : ∀ s ∈ sections, s.hasNumericReference = false) :
    ((∃ numbered, numberSections sections = .ok numbered) ∧ MovesOn sections) ∨
    ∃ s t, FirstRepetition sections s t ∧
      numberSections sections = .error ⟨s.header, t.header, t.reference⟩ := by
  cases sections with
  | nil => exact .inl ⟨⟨[], rfl⟩, .nil⟩
  | cons s rest =>
      have sText := text s List.mem_cons_self
      have leaves : ¬s.chunks <+: ({} : Numbering).previous := by
        intro within
        exact chunks_ne_nil s.reference (List.prefix_nil.mp within)
      have given : ({} : Numbering).GivesCounted := by
        intro entry member
        cases member
      have moved := counts_start.advance_text given sText leaves
      have later := (counts_start.after leaves).advanceAll_text
        (counts_start.givesCounted_after given sText leaves) rfl rfl
        fun t member => text t (List.mem_cons_of_mem s member)
      rw [numberSections, advanceAll_cons_of_ok moved]
      rcases later with ⟨⟨numbered, walked⟩, chain⟩ | ⟨u, t, repetition, walked⟩
      · exact .inl ⟨⟨_, by rw [walked]; rfl⟩, chain⟩
      · exact .inr ⟨u, t, repetition, by rw [walked]; rfl⟩

theorem exists_error_iff_of_text {sections : List Section}
    (text : ∀ s ∈ sections, s.hasNumericReference = false) :
    (∃ collision, numberSections sections = .error collision) ↔
      ∃ before s t after, sections = before ++ s :: t :: after ∧ t.chunks <+: s.chunks := by
  rcases numberSections_text text with
    ⟨⟨numbered, success⟩, chain⟩ | ⟨s, t, ⟨before, after, split, -, within⟩, failed⟩
  · rw [success]
    constructor
    · intro failure
      rcases failure with ⟨collision, impossible⟩
      cases impossible
    · intro repetition
      rcases repetition with ⟨before, s, t, after, split, within⟩
      rw [split] at chain
      exact absurd within (List.isChain_append_cons_cons.mp chain).2.1
  · exact iff_of_true ⟨_, failed⟩ ⟨before, s, t, after, split, within⟩

theorem firstRepetition_of_eq_error {sections : List Section} {collision : Collision}
    (text : ∀ s ∈ sections, s.hasNumericReference = false)
    (failure : numberSections sections = .error collision) :
    ∃ s t, FirstRepetition sections s t ∧ collision = ⟨s.header, t.header, t.reference⟩ := by
  rcases numberSections_text text with ⟨⟨numbered, success⟩, -⟩ | ⟨s, t, repetition, failed⟩
  · rw [success] at failure
    cases failure
  · rw [failed] at failure
    cases failure
    exact ⟨s, t, repetition, rfl⟩

/-- Numbering takes sections in any order and never counts a number twice. After each section there
is one counter for each of its steps, none of them beyond the number of sections passed, and the
counters have become greater in lexicographic order. Text references are refused exactly if the
steps of one begin those of the reference before it, and the collision names the first two of that
kind. -/
theorem numberSections_never_repeats (sections : List Section) :
    (∀ numbered, numberSections sections = .ok numbered ↔
      (pathsOf sections).length = sections.length ∧
        numbered = List.zipWith renumber sections (pathsOf sections)) ∧
    (∀ i s path, sections[i]? = some s → (pathsOf sections)[i]? = some path →
      path.length = s.chunks.length ∧ ∀ n ∈ path, 1 ≤ n ∧ n ≤ i + 1) ∧
    (sections.length < 2 ^ 32 → ∀ path ∈ pathsOf sections, ∀ n ∈ path, n < 2 ^ 32) ∧
    ([] :: pathsOf sections).Pairwise (List.Lex (· < ·)) ∧
    (countedReferences sections).Nodup ∧
    ((∀ s ∈ sections, s.hasNumericReference = false) →
      ((∃ collision, numberSections sections = .error collision) ↔
        ∃ before s t after, sections = before ++ s :: t :: after ∧ t.chunks <+: s.chunks) ∧
      ∀ collision, numberSections sections = .error collision →
        ∃ s t, FirstRepetition sections s t ∧
          collision = ⟨s.header, t.header, t.reference⟩) := by
  refine ⟨fun numbered => numberSections_eq_ok_iff, fun i s path => pathsOf_bounds, ?_,
    pathsOf_ascend sections, nodup_countedReferences sections, ?_⟩
  · intro few path reached n member
    exact lt_of_mem_pathsOf few reached member
  · intro text
    exact ⟨exists_error_iff_of_text text, fun collision => firstRepetition_of_eq_error text⟩

/-- The third reference repeats steps of the second, and the last one is the first once more. -/
def unsortedSections : List Section :=
  [{ header := ['p'], reference := ['b'] },
    { header := ['q'], reference := ['a', '.', 'c'] },
    { header := ['r'], reference := ['A'] },
    { header := ['t'], reference := ['B'] }]

theorem unsortedSections_first_repetition :
    numberSections unsortedSections = .error ⟨['q'], ['r'], ['A']⟩ ∧
      ∃ s t, FirstRepetition unsortedSections s t ∧
        (⟨['q'], ['r'], ['A']⟩ : Collision) = ⟨s.header, t.header, t.reference⟩ := by
  have text : ∀ s ∈ unsortedSections, s.hasNumericReference = false := by decide +kernel
  have failure : numberSections unsortedSections = .error ⟨['q'], ['r'], ['A']⟩ := rfl
  have refused := (numberSections_never_repeats unsortedSections).2.2.2.2.2 text
  exact ⟨failure, refused.2 _ failure⟩

/-- A reference that comes back after others gets a second number. -/
example :
    (numberSections
      [{ reference := ['b'] }, { reference := ['a', '.', 'c'] }, { reference := ['B'] }]).map
        (List.map Section.reference) = .ok [['1'], ['2', '.', '1'], ['3']] := rfl

end StyleCatalog
