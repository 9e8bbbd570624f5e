import StyleCatalog.Text.Lower

/-! # Paths

A path is a text; its components are what stands between slashes, where empty components and single
dots after the first component mean nothing.
-/

namespace StyleCatalog.Path

inductive Component where
  | root
  | current
  | parent
  | name (t : Text)
  deriving DecidableEq, Repr

def componentOf? (t : Text) : Option Component :=
  if t.isEmpty || t = ['.'] then none
  else if t = ['.', '.'] then some .parent
  else some (.name t)

/-- The components of a path. A single dot counts only as the first of them. -/
def components (path : Text) : List Component :=
  let pieces := path.splitAtChar '/'
  let inner := pieces.filterMap componentOf?
  match path with
  | '/' :: _ => .root :: inner
  | _ => if pieces.head? = some ['.'] then .current :: inner else inner

def fileName? (path : Text) : Option Text :=
  match (components path).getLast? with
  | some (.name t) => some t
  | _ => none

/-- What follows the last full stop of a file name that does not stand at its start. -/
def extension? (path : Text) : Option Text :=
  (fileName? path).bind fun file =>
    let reversed := file.reverse
    match reversed.dropWhile (· ≠ '.') with
    | _ :: stem => if stem.isEmpty then none else some (reversed.takeWhile (· ≠ '.')).reverse
    | [] => none

def join (directory file : Text) : Text :=
  if directory.isEmpty || directory.getLast? = some '/' then directory ++ file
  else directory ++ '/' :: file

/-! ## The order of paths -/

def Component.rank : Component → Nat
  | .root => 0
  | .current => 1
  | .parent => 2
  | .name _ => 3

/-- The order of two components: by kind, and names by their code points. -/
def Component.compare : Component → Component → Ordering
  | .name a, .name b => Text.compare a b
  | a, b => Ord.compare a.rank b.rank

/-- The order of two lists of components, a beginning before its extensions. -/
def compareComponents : List Component → List Component → Ordering
  | [], [] => .eq
  | [], _ :: _ => .lt
  | _ :: _, [] => .gt
  | a :: as, b :: bs => (a.compare b).then (compareComponents as bs)

def compare (a b : Text) : Ordering := compareComponents (components a) (components b)

def sort (paths : List Text) : List Text := paths.mergeSort fun a b => (compare a b).isLE

end StyleCatalog.Path
