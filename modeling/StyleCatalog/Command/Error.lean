import StyleCatalog.Catalog.Sources
import StyleCatalog.Settings.Load

/-! # Errors of the command

Why a build gives no catalogue, and the report of it: the error, and under it what is behind it.
-/

namespace StyleCatalog

inductive CommandError where
  | settings (error : SettingsError)
  | settingsMissing (path : Text)
  | noPaths
  | source (error : SourceError)
  | catalog (error : CatalogError)
  | output (path : Text) (fault : FileFault)
  deriving DecidableEq, Repr

/-- What the reader of arguments says of those that it refuses, and the reader of settings files of
such a text. These two wordings are not the command's own, and nothing about them is assumed. -/
structure Diagnostics where
  usage : List Text → Text
  settings : Text → Text

namespace CommandError

variable (diagnostics : Diagnostics)

def message : CommandError → Text
  | .settings error => error.message diagnostics.settings
  | .settingsMissing path => "Config file not found: ".toList ++ path
  | .noPaths => "No stylesheet paths given and none configured in source_paths".toList
  | .source error => error.message
  | .catalog _ => "Failed to build style-guide sections".toList
  | .output path _ => "Failed to write ".toList ++ path

/-- What is behind an error, from the nearest cause to the farthest. -/
def causes : CommandError → List Text
  | .settings error => [error.cause diagnostics.settings]
  | .settingsMissing _ => []
  | .noPaths => []
  | .source (.notFound _) => []
  | .source (.unreadable _ fault) => [fault.message]
  | .catalog (.block file index cause) =>
    [(CatalogError.block file index cause).message, cause.message]
  | .catalog (.collision clash) => [clash.message]
  | .output _ fault => [fault.message]

/-- A cause behind its mark; further lines of it stand as far to the right as the first. -/
def indented (mark cause : Text) : Text :=
  mark ++ List.intercalate ('\n' :: List.replicate mark.length ' ') (cause.splitAtChar '\n')

def numbered (index : Nat) : List Text → List Text
  | [] => []
  | cause :: rest =>
    let digits := Text.ofNat index
    let mark := List.replicate (5 - digits.length) ' ' ++ digits ++ [':', ' ']
    indented mark cause :: numbered (index + 1) rest

/-- The lines that tell an error and its causes. A single cause has no number. -/
def report (error : CommandError) : Text :=
  let told : List Text := match error.causes diagnostics with
    | [] => []
    | [cause] => [indented (List.replicate 4 ' ') cause]
    | causes => numbered 0 causes
  let heading : List Text := if told.isEmpty then [] else [[], "Caused by:".toList]
  Text.unlines (("Error: ".toList ++ error.message diagnostics) :: heading ++ told) ++ ['\n']

end CommandError

end StyleCatalog
