import StyleCatalog.Files.Path
import StyleCatalog.Options
import StyleCatalog.Toml.Basic

/-! # Settings

What a settings file can choose: the stylesheets to read, the file extensions that make a file a
stylesheet, where the result goes, and the options of the build.
-/

namespace StyleCatalog

def defaultExtensions : List Text :=
  ["css".toList, "scss".toList, "less".toList, "sass".toList, "styl".toList]

structure Settings where
  /-- The files and directories to read when none are named otherwise. -/
  sourcePaths : List Text := []
  extensions : List Text := defaultExtensions
  /-- The file that the result is written to; without one it is printed. -/
  output : Option Text := none
  options : Options := {}
  deriving DecidableEq, Repr

namespace Settings

/-- Whether a path has one of the extensions, in whatever case of letters. -/
def acceptsFile (settings : Settings) (path : Text) : Bool :=
  match Path.extension? path with
  | none => false
  | some extension =>
    let lowered := Text.lower extension
    settings.extensions.any fun accepted => Text.sameAscii accepted lowered

def orDefault {α : Type} (default : α) (read : Toml → Option α) : Option Toml → Option α
  | none => some default
  | some value => read value

/-- The options of a build: a table, or an array of the two values in order. Further items of the
array and unknown keys of the table do not count. -/
def options? : Toml → Option Options
  | .table entries => do
    let markdown ← orDefault true Toml.bool? (Toml.lookup "markdown".toList entries)
    let marker ←
      orDefault defaultMarker Toml.string? (Toml.lookup "param_prefix".toList entries)
    return ⟨markdown, marker⟩
  | .array items => do
    let markdown ← orDefault true Toml.bool? items.head?
    let marker ← orDefault defaultMarker Toml.string? (items.drop 1).head?
    return ⟨markdown, marker⟩
  | _ => none

/-- The settings in the entries of a document. Unknown keys do not count; a value of the wrong kind
spoils all. -/
def ofEntries? (entries : List (Text × Toml)) : Option Settings := do
  let sourcePaths ← orDefault [] Toml.strings? (Toml.lookup "source_paths".toList entries)
  let extensions ←
    orDefault defaultExtensions Toml.strings? (Toml.lookup "extensions".toList entries)
  let output ←
    orDefault none (fun value => value.string?.map some) (Toml.lookup "output".toList entries)
  let options ← orDefault {} options? (Toml.lookup "parser".toList entries)
  return ⟨sourcePaths, extensions, output, options⟩

end Settings

end StyleCatalog
