import StyleCatalog.Catalog.Basic
import StyleCatalog.Files.Disk
import StyleCatalog.Settings.Basic

/-! # Finding and reading stylesheets

The paths that a build is given name stylesheets, or directories that are searched for them at any
depth. What is found in a directory is sorted, so the order in which directories list their entries
does not show.
-/

namespace StyleCatalog

/-! ## Searching directories -/

namespace Tree

mutual

/-- The paths of the files in a tree that stands at a path. A directory whose path is too long to be
followed is not looked into and counts as a file. -/
def filePaths (path : Text) : Tree → List Text
  | .file _ => [path]
  | .directory entries =>
    if Disk.pathLimit < Text.byteLength path then [path] else entryPaths path entries

def entryPaths (path : Text) : List (Text × Tree) → List Text
  | [] => []
  | (name, tree) :: rest => filePaths (Path.join path name) tree ++ entryPaths path rest

end

end Tree

inductive SourceError where
  | notFound (path : Text)
  | unreadable (path : Text) (fault : FileFault)
  deriving DecidableEq, Repr

def SourceError.message : SourceError → Text
  | .notFound path => "Source path not found: ".toList ++ path
  | .unreadable path fault => "Failed to read ".toList ++ path ++ ": ".toList ++ fault.message

namespace Settings

/-- The stylesheets that one path names: a file is one whatever its extension, and of a directory
those files below it are that have an accepted extension. -/
def stylesheetsAt (settings : Settings) (disk : Disk) (path : Text) :
    Except SourceError (List Text) :=
  match disk.get path with
  | .error _ => .error (.notFound path)
  | .ok (.file _) => .ok [path]
  | .ok (.directory entries) =>
    .ok (Path.sort ((Tree.entryPaths path entries).filter settings.acceptsFile))

def stylesheets (settings : Settings) (disk : Disk) : List Text → Except SourceError (List Text)
  | [] => .ok []
  | path :: rest =>
    match settings.stylesheetsAt disk path with
    | .error fault => .error fault
    | .ok found => (settings.stylesheets disk rest).map (found ++ ·)

end Settings

/-- Read stylesheets. The first one that cannot be read spoils all. -/
def Disk.readSources (disk : Disk) : List Text → Except SourceError (List SourceFile)
  | [] => .ok []
  | path :: rest =>
    match disk.readText path with
    | .error fault => .error (.unreadable path fault)
    | .ok contents => (disk.readSources rest).map (⟨path, contents⟩ :: ·)

end StyleCatalog
