import StyleCatalog.Proofs.Reference.Sorting

/-! # Changes that resolution does not see

Sorting and numbering read the reference and the weight of a section, and copy its header into a
collision. A change of the other texts of sections, and of headers each by its own text, can be made
before or after resolution with the same result: `Relabeling.resolveSections_map`.
-/

namespace StyleCatalog

/-- A change of the texts of a section that have no part in its place. -/
structure Relabeling where
  header : Text → Text
  description : Text → Text
  modifiers : List Modifier → List Modifier
  css : Option Text → Option Text
  header_nil : header [] = []

def Relabeling.change (relabeling : Relabeling) (s : Section) : Section :=
  { s with
    header := relabeling.header s.header
    description := relabeling.description s.description
    modifiers := relabeling.modifiers s.modifiers
    css := relabeling.css s.css }

/-- A collision between sections whose headers are renamed. -/
def Collision.relabel (rename : Text → Text) (collision : Collision) : Collision :=
  ⟨rename collision.previous, rename collision.current, collision.reference⟩

/-- The walk over sections whose headers are renamed. -/
def Numbering.relabel (rename : Text → Text) (state : Numbering) : Numbering where
  path := state.path
  previous := state.previous
  previousHeader := rename state.previousHeader
  assigned := state.assigned.map fun entry => (entry.1, rename entry.2)

namespace Relabeling

variable (relabeling : Relabeling)

theorem renumber_change (s : Section) (path : List Nat) :
    Numbering.renumber (relabeling.change s) path =
      relabeling.change (Numbering.renumber s path) := by
  rw [Numbering.renumber, Numbering.renumber]
  change (if s.hasNumericReference then _ else _) = _
  split <;> rfl

/-! ## Sorting -/

theorem weights_map (sections : List Section) :
    Weights.ofSections (sections.map relabeling.change) = Weights.ofSections sections := by
  rw [Weights.ofSections, Weights.ofSections, List.map_map]
  rfl

theorem sortSections_map (sections : List Section) :
    sortSections (sections.map relabeling.change) =
      (sortSections sections).map relabeling.change := by
  rw [sortSections_eq_mergeSort, sortSections_eq_mergeSort, relabeling.weights_map]
  symm
  apply List.map_mergeSort
  intro s _ t _
  rfl

/-! ## Numbering -/

theorem holder?_map (rename : Text → Text) (reference : Text) (assigned : List (Text × Text)) :
    Numbering.holder? reference (assigned.map fun entry => (entry.1, rename entry.2)) =
      (Numbering.holder? reference assigned).map rename := by
  induction assigned with
  | nil => rfl
  | cons entry rest induction =>
      rw [List.map_cons, Numbering.holder?, Numbering.holder?, induction]
      split <;> rfl

/-- One step of the walk, taken after the change. -/
theorem advance_change (state : Numbering) (s : Section) :
    (state.relabel relabeling.header).advance (relabeling.change s) =
      ((state.advance s).map fun step =>
        (relabeling.change step.1, step.2.relabel relabeling.header)).mapError
          (Collision.relabel relabeling.header) := by
  have samePlace : (relabeling.change s).chunks = s.chunks := rfl
  have sameReference (t : Section) : (relabeling.change t).reference = t.reference := rfl
  rw [Numbering.advance, Numbering.advance]
  simp only [Numbering.relabel, relabeling.renumber_change, samePlace, sameReference, holder?_map]
  split
  · rfl
  · generalize Numbering.renumber s _ = numbered
    cases Numbering.holder? numbered.reference state.assigned with
    | none => rfl
    | some header => rfl

theorem advanceAll_map (state : Numbering) (sections : List Section) :
    (state.relabel relabeling.header).advanceAll (sections.map relabeling.change) =
      ((state.advanceAll sections).map (List.map relabeling.change)).mapError
        (Collision.relabel relabeling.header) := by
  induction sections generalizing state with
  | nil => rfl
  | cons s rest induction =>
      rw [List.map_cons, Numbering.advanceAll, Numbering.advanceAll, relabeling.advance_change]
      cases state.advance s with
      | error collision => rfl
      | ok step =>
          rcases step with ⟨numbered, next⟩
          change ((next.relabel _).advanceAll _).map _ = _
          rw [induction]
          cases walked : next.advanceAll rest with
          | error collision => simp only [walked]; rfl
          | ok later => simp only [walked]; rfl

/-- Resolution of changed sections is the changed resolution. -/
theorem resolveSections_map (sections : List Section) :
    resolveSections (sections.map relabeling.change) =
      ((resolveSections sections).map (List.map relabeling.change)).mapError
        (Collision.relabel relabeling.header) := by
  have start : Numbering.relabel relabeling.header {} = {} := by
    rw [Numbering.relabel, relabeling.header_nil]
    rfl
  have walked := relabeling.advanceAll_map {} (sortSections sections)
  rw [start] at walked
  rw [resolveSections, relabeling.sortSections_map]
  exact walked

end Relabeling

end StyleCatalog
