import StyleCatalog.Reference.Basic

/-! # The display order of references

Two references are compared at the first step where they differ: the lower weight comes first, then
numbers by value before text by code points. A reference comes before those below it.
-/

namespace StyleCatalog

/-- The weights that sections declare, each for its own normalized reference, in the order of the
sections. -/
structure Weights where
  declared : List (Text × Weight)

namespace Weights

def ofSections (sections : List Section) : Weights :=
  ⟨sections.map fun s => (Reference.normalize s.reference, s.weight)⟩

def find? (normalized : Text) : List (Text × Weight) → Option Weight
  | [] => none
  | (reference, weight) :: rest =>
    match find? normalized rest with
    | some later => some later
    | none => if reference = normalized then some weight else none

/-- The weight of a normalized reference: the last one declared for it, and zero when nobody
declared one. -/
def get (weights : Weights) (normalized : Text) : Weight :=
  (find? normalized weights.declared).getD .zero

end Weights

namespace Reference

/-- Whether a step is a number: decimal digits only, and at least one. -/
def isNumber (chunk : Chunk) : Bool := !chunk.isEmpty && chunk.all Char.isDigit

def compareLength (a b : Nat) : Ordering :=
  if a < b then .lt else if b < a then .gt else .eq

/-- The order of two runs of digits by value, whatever their length: without leading zeros the
longer run is the larger number. -/
def compareDigits (x y : Chunk) : Ordering :=
  let x := x.dropWhile (· = '0')
  let y := y.dropWhile (· = '0')
  (compareLength x.length y.length).then (Text.compare x y)

/-- The order of two steps at one place: numbers before text, numbers by value and then by
spelling, text by code points. -/
def compareChunk (x y : Chunk) : Ordering :=
  match isNumber x, isNumber y with
  | true, true => (compareDigits x y).then (Text.compare x y)
  | true, false => .lt
  | false, true => .gt
  | false, false => Text.compare x y

/-- The order of what follows the steps `above`, shared by both references. -/
def compareBelow (weights : Weights) (above : List Chunk) : List Chunk → List Chunk → Ordering
  | [], [] => .eq
  | [], _ :: _ => .lt
  | _ :: _, [] => .gt
  | x :: xs, y :: ys =>
    if x = y then compareBelow weights (above ++ [x]) xs ys
    else
      let here (step : Chunk) := weights.get (join (above ++ [step]))
      ((here x).compare (here y)).then (compareChunk x y)

def compareChunks (weights : Weights) (a b : List Chunk) : Ordering :=
  compareBelow weights [] a b

def compare (weights : Weights) (a b : Text) : Ordering :=
  compareChunks weights (chunks a) (chunks b)

end Reference

/-- Sections in display order. Sections with equal references keep their order. -/
def sortSections (sections : List Section) : List Section :=
  let weights := Weights.ofSections sections
  let keyed := sections.map fun s => (s.chunks, s)
  (keyed.mergeSort fun a b => Reference.compareChunks weights a.1 b.1 != .gt).map Prod.snd

end StyleCatalog
