import StyleCatalog.Command.Run

/-! # The program

The command is a function of the files there are, so the program copies those that the arguments and
the settings name, runs the command on the copy, and does to the disk what the command did to the
copy.
-/

namespace StyleCatalog.Program

/-- Copy what stands at a path. Only files that `accepts` takes are copied with their contents. -/
partial def copyTree (accepts : Text → Bool) (entry : IO.FS.DirEntry) : IO Tree := do
  if ← entry.path.isDir then
    let copied ← (← entry.path.readDir).toList.mapM fun inner => do
      return (inner.fileName.toList, ← copyTree accepts inner)
    return .directory copied
  else if accepts entry.fileName.toList then
    return .file (← IO.FS.readBinFile entry.path).toList
  else return .file []

def withDirectory (disk : Disk) (place : List Text) : Disk :=
  if (disk.root.get? place).isSome then disk
  else { disk with root := Tree.set (.directory []) place disk.root }

/-- Copy what stands at the end of a path, and the directories on the way to it. `spelled` is what
of the path has been followed, up to `place`. Directories at the end are copied whole if `accepts`
is given. -/
def copyPath (accepts : Option (Text → Bool)) (disk : Disk) (spelled : Text) (place : List Text) :
    List Text → IO Disk
  | [] => do
    let entry : IO.FS.DirEntry := ⟨← IO.currentDir, String.ofList spelled⟩
    match ← entry.path.isDir, accepts with
    | true, none => return withDirectory disk place
    | true, some accepts =>
      return { disk with root := Tree.set (← copyTree accepts entry) place disk.root }
    | false, _ =>
      let tree ← copyTree (fun _ => true) entry
      return { disk with root := Tree.set tree place disk.root }
  | piece :: rest => do
    let entry : IO.FS.DirEntry := ⟨← IO.currentDir, String.ofList (spelled ++ piece)⟩
    let next := if piece.isEmpty || piece = ['.'] then place
      else if piece = ['.', '.'] then place.dropLast
      else place ++ [piece]
    if !piece.isEmpty && !(← entry.path.pathExists) then return disk
    else if rest.isEmpty && !piece.isEmpty then
      copyPath accepts disk (spelled ++ piece) next rest
    else if piece.isEmpty || (← entry.path.isDir) then
      copyPath accepts (withDirectory disk next) (spelled ++ piece ++ ['/']) next rest
    else return { disk with root := Tree.set (.file []) next disk.root }

def copyNamed (accepts : Option (Text → Bool)) (disk : Disk) (path : Text) : IO Disk :=
  if path.isEmpty then return disk
  else
    let (place, pieces) := disk.start path
    copyPath accepts disk (if path.head? = some '/' then ['/'] else []) place pieces

def readVariables (names : List Text) : IO Environment := do
  let found ← names.mapM fun name => do
    return (← IO.getEnv (String.ofList name)).map fun value => (name, value.toList)
  return found.filterMap id

/-- The variables that the settings in a file may name, and the home directory. -/
def environmentFor (disk : Disk) (settingsPath : Text) (home : Environment) :
    IO Environment := do
  match disk.readText settingsPath with
  | .error _ => return home
  | .ok t =>
    match (Toml.parse? t).bind Settings.ofEntries? with
    | none => return home
    | some settings =>
      let paths := settings.sourcePaths ++ settings.output.toList
      return home ++ (← readVariables (paths.flatMap Environment.mentioned))

def prepare (arguments : Arguments) : IO (Disk × Environment) := do
  let here := (Text.splitAtChar '/' (← IO.currentDir).toString.toList).filter fun piece =>
    !piece.isEmpty
  let bare : Disk := ⟨Tree.set (.directory []) here (.directory []), here⟩
  let home ← readVariables ["HOME".toList]
  let settingsPath := arguments.settingsPath.getD (Settings.defaultPath home)
  let first ← copyNamed none bare settingsPath
  let environment ← environmentFor first settingsPath home
  match arguments.loadSettings environment { disk := first } with
  | .error _ _ => return (first, environment)
  | .ok settings _ =>
    let paths := arguments.searched settings
    let output := (arguments.output.or settings.output).toList
    let whole ← paths.foldlM (copyNamed (some settings.acceptsFile)) first
    let disk ← (output ++ paths ++ [settingsPath]).foldlM (copyNamed none) whole
    return (disk, environment)

/-- Short wordings in the place of those that name the argument, or the line and the column. -/
def diagnostics : Diagnostics where
  usage _ := Text.unlines <| List.map String.toList
    ["error: invalid arguments",
      "",
      "Usage: styleguide-cli [OPTIONS] [PATHS]...",
      "",
      "For more information, try '--help'.",
      ""]
  settings _ := "TOML parse error".toList

/-- Run the command on the disk. The log is not written. -/
def run (words : List String) : IO UInt32 := do
  let texts := words.map String.toList
  let (disk, environment) ← match Demand.ofArguments? texts with
    | some (.build arguments) => prepare arguments
    | _ => pure (⟨.directory [], []⟩, [])
  let outcome := runCommand diagnostics disk environment texts
  match outcome.written with
  | some (path, t) =>
    let entry : IO.FS.DirEntry := ⟨← IO.currentDir, String.ofList path⟩
    IO.FS.writeFile entry.path (String.ofList t)
  | none => pure ()
  (← IO.getStdout).putStr (String.ofList outcome.printed)
  (← IO.getStderr).putStr (String.ofList outcome.reported)
  return outcome.exitCode.toUInt32

end StyleCatalog.Program

def main (words : List String) : IO UInt32 := StyleCatalog.Program.run words
