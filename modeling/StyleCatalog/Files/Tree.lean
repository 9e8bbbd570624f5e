import StyleCatalog.Text.Basic

/-! # File trees

Files and directories as data. A place in a tree is the list of the names that lead to it, so what
a tree holds is told by `Tree.get?`. The entries of a directory stand in the order in which it
lists them, an order that nothing should depend on.
-/

namespace StyleCatalog

inductive Tree where
  | file (bytes : List UInt8)
  | directory (entries : List (Text × Tree))
  deriving Inhabited

namespace Tree

def find? (name : Text) : List (Text × Tree) → Option Tree
  | [] => none
  | (other, tree) :: rest => if other = name then some tree else find? name rest

def put (name : Text) (tree : Tree) : List (Text × Tree) → List (Text × Tree)
  | [] => [(name, tree)]
  | (other, old) :: rest =>
    if other = name then (name, tree) :: rest else (other, old) :: put name tree rest

def get? : List Text → Tree → Option Tree
  | [], tree => some tree
  | _ :: _, .file _ => none
  | name :: rest, .directory entries => (find? name entries).bind (get? rest)

/-- The tree with another one at a place. Directories on the way that do not exist are made; a file
on the way stays what it is. -/
def set (new : Tree) : List Text → Tree → Tree
  | [], _ => new
  | _ :: _, .file bytes => .file bytes
  | name :: rest, .directory entries =>
    .directory (put name (set new rest ((find? name entries).getD (.directory []))) entries)

def isDirectory : Tree → Bool
  | .file _ => false
  | .directory _ => true

end Tree

end StyleCatalog
