import StyleCatalog.Files.Tree

/-! # Reading and writing by path

A disk is a tree of files with a working directory. Paths are followed step by step, so a path may
fail on its way even where its end would exist.
-/

namespace StyleCatalog

inductive FileFault where
  | missing
  | notDirectory
  | isDirectory
  | notText
  | nulInName
  | nameTooLong
  deriving DecidableEq, Repr

def FileFault.message : FileFault → Text
  | .missing => "No such file or directory (os error 2)".toList
  | .notDirectory => "Not a directory (os error 20)".toList
  | .isDirectory => "Is a directory (os error 21)".toList
  | .notText => "stream did not contain valid UTF-8".toList
  | .nulInName => "file name contained an unexpected NUL byte".toList
  | .nameTooLong => "File name too long (os error 36)".toList

/-- The files there are, and the place that relative paths start from. -/
structure Disk where
  root : Tree
  workingDirectory : List Text := []

namespace Disk

/-- The most bytes that the name of a file may have. -/
def nameLimit : Nat := 255

def pathLimit : Nat := 4095

/-- Follow the pieces of a path from a place. An empty piece and a single dot stay in a directory,
two dots go to the one around it; a file can only come last. -/
def follow (disk : Disk) : List Text → List Text → Except FileFault (List Text)
  | [], place => .ok place
  | piece :: rest, place =>
    match disk.root.get? place with
    | none => .error .missing
    | some (.file _) => .error .notDirectory
    | some (.directory entries) =>
      if piece.isEmpty || piece = ['.'] then disk.follow rest place
      else if piece = ['.', '.'] then disk.follow rest place.dropLast
      else if nameLimit < Text.byteLength piece then .error .nameTooLong
      else if (Tree.find? piece entries).isSome then disk.follow rest (place ++ [piece])
      else .error .missing

def start (disk : Disk) (path : Text) : List Text × List Text :=
  match path with
  | '/' :: rest => ([], Text.splitAtChar '/' rest)
  | _ => (disk.workingDirectory, path.splitAtChar '/')

/-- The place that a path leads to. The empty path leads nowhere. -/
def locate (disk : Disk) (path : Text) : Except FileFault (List Text) :=
  if path.isEmpty then .error .missing
  else if pathLimit < Text.byteLength path then .error .nameTooLong
  else
    let (place, pieces) := disk.start path
    disk.follow pieces place

def get (disk : Disk) (path : Text) : Except FileFault Tree :=
  match disk.locate path with
  | .error fault => .error fault
  | .ok place =>
    match disk.root.get? place with
    | some tree => .ok tree
    | none => .error .missing

def exists? (disk : Disk) (path : Text) : Bool :=
  match disk.get path with
  | .ok _ => true
  | .error _ => false

/-- The characters that bytes encode in UTF-8. -/
def decode? (bytes : List UInt8) : Option Text :=
  (String.fromUTF8? ⟨bytes.toArray⟩).map String.toList

def encode (t : Text) : List UInt8 := (String.ofList t).toUTF8.data.toList

def readText (disk : Disk) (path : Text) : Except FileFault Text :=
  match disk.get path with
  | .error fault => .error fault
  | .ok (.directory _) => .error .isDirectory
  | .ok (.file bytes) =>
    match decode? bytes with
    | some t => .ok t
    | none => .error .notText

/-- The place that a path to be written names: its last piece, in the directory that the pieces
before it lead to. Slashes, a dot or two dots at the end name a directory, which is no file. -/
def locateNew (disk : Disk) (path : Text) : Except FileFault (List Text) :=
  if path.contains '\x00' then .error .nulInName
  else if path.isEmpty then .error .missing
  else if pathLimit < Text.byteLength path then .error .nameTooLong
  else
    let (place, pieces) := disk.start path
    let named := (pieces.reverse.dropWhile List.isEmpty).reverse
    match disk.follow named.dropLast place with
    | .error fault => .error fault
    | .ok directory =>
      match disk.root.get? directory, named.getLast? with
      | none, _ => .error .missing
      | some (.file _), _ => .error .notDirectory
      | some (.directory _), none => .error .isDirectory
      | some (.directory entries), some name =>
        if named.length < pieces.length || name = ['.'] || name = ['.', '.'] then
          .error .isDirectory
        else if nameLimit < Text.byteLength name then .error .nameTooLong
        else
          match Tree.find? name entries with
          | some (.directory _) => .error .isDirectory
          | _ => .ok (directory ++ [name])

def withFile (disk : Disk) (place : List Text) (bytes : List UInt8) : Disk :=
  { disk with root := Tree.set (.file bytes) place disk.root }

/-- Open a file for writing. It is made if it does not exist, but its directory must; if it does
exist, what it held is gone. -/
def openNew (path : Text) : EStateM FileFault Disk (List Text) := do
  let disk ← MonadState.get
  match disk.locateNew path with
  | .error fault => throw fault
  | .ok place =>
    set (disk.withFile place [])
    return place

/-- Write a text to a file. Only the opening can fail. -/
def writeText (path t : Text) : EStateM FileFault Disk Unit := do
  let place ← openNew path
  modify fun disk => disk.withFile place (encode t)

end Disk

end StyleCatalog
