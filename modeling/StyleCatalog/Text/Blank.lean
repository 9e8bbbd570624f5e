/-! # White space

The `White_Space` property of characters. Trimming, blank lines and word gaps all use this one
class; in particular a no-break space is white space and a zero-width space is not.
-/

namespace StyleCatalog

/-- The code points with the `White_Space` property, as inclusive ranges in ascending order. -/
def whiteSpaceRanges : List (Nat × Nat) :=
  [(0x9, 0xD), (0x20, 0x20), (0x85, 0x85), (0xA0, 0xA0), (0x1680, 0x1680), (0x2000, 0x200A),
    (0x2028, 0x2029), (0x202F, 0x202F), (0x205F, 0x205F), (0x3000, 0x3000)]

def inRanges (ranges : List (Nat × Nat)) (code : Nat) : Bool :=
  ranges.any fun range => range.1 ≤ code && code ≤ range.2

/-- A character that may be trimmed: one with the `White_Space` property. -/
def isBlank (c : Char) : Bool :=
  inRanges whiteSpaceRanges c.toNat

/-- There are twenty-five white-space code points. -/
example : (whiteSpaceRanges.map fun range => range.2 - range.1 + 1).sum = 25 := by decide

end StyleCatalog
