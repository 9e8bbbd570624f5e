import StyleCatalog.Reference.Order

/-! # Numbering sections

One walk over the sections in display order gives every text reference a number derived from its
place among the others: a counter for each step, increased where the reference leaves the one
before. Numbers given by hand stay as they are; two sections with one number are a collision.
-/

namespace StyleCatalog

/-- Two sections that would get the same reference. -/
structure Collision where
  /-- The header of the section that holds the reference. -/
  previous : Text
  /-- The header of the section that claims it as well. -/
  current : Text
  reference : Text
  deriving DecidableEq, Repr

def Collision.message (collision : Collision) : Text :=
  "Reference collision: '".toList ++ collision.previous ++ "' and '".toList ++ collision.current ++
    "' both resolve from reference '".toList ++ collision.reference ++ "'".toList

def sharedLength {α : Type} [DecidableEq α] : List α → List α → Nat
  | a :: as, b :: bs => if a = b then sharedLength as bs + 1 else 0
  | _, _ => 0

/-- What the walk remembers between two sections. -/
structure Numbering where
  /-- The counter of each step of the last section's reference. -/
  path : List Nat := []
  previous : List Chunk := []
  previousHeader : Text := []
  /-- The references given out so far, each with the header of its section. -/
  assigned : List (Text × Text) := []

namespace Numbering

/-- The counters after the walk has moved on: the steps above `depth` stay, the step at `depth` is
counted once more, and the steps below start at one. -/
def nextPath (path : List Nat) (depth count : Nat) : List Nat :=
  let kept := path.take depth ++ [path.getD depth 0 + 1]
  kept ++ List.replicate (count - kept.length) 1

def numberOf (path : List Nat) : Text := List.intercalate ['.'] (path.map Text.ofNat)

def holder? (reference : Text) : List (Text × Text) → Option Text
  | [] => none
  | (held, header) :: rest => if held = reference then some header else holder? reference rest

def renumber (s : Section) (path : List Nat) : Section :=
  if s.hasNumericReference then s
  else { s with reference := numberOf path, stringReference := some s.reference }

def advance (state : Numbering) (s : Section) : Except Collision (Section × Numbering) :=
  let depth := sharedLength s.chunks state.previous
  if s.chunks.length ≤ depth then
    .error ⟨state.previousHeader, s.header, s.reference⟩
  else
    let path := nextPath state.path depth s.chunks.length
    let numbered := renumber s path
    match holder? numbered.reference state.assigned with
    | some header =>
      .error ⟨header, s.header, numbered.stringReference.getD numbered.reference⟩
    | none =>
      .ok (numbered,
        { path := path
          previous := s.chunks
          previousHeader := s.header
          assigned := (numbered.reference, s.header) :: state.assigned })

def advanceAll (state : Numbering) : List Section → Except Collision (List Section)
  | [] => .ok []
  | s :: rest =>
    match state.advance s with
    | .error collision => .error collision
    | .ok (numbered, next) => (next.advanceAll rest).map (numbered :: ·)

end Numbering

def numberSections (sections : List Section) : Except Collision (List Section) :=
  Numbering.advanceAll {} sections

def resolveSections (sections : List Section) : Except Collision (List Section) :=
  numberSections (sortSections sections)

end StyleCatalog
