import StyleCatalog.Files.Disk
import StyleCatalog.Settings.Basic
import StyleCatalog.Settings.Expansion
import StyleCatalog.Toml.Reader

/-! # Loading settings -/

namespace StyleCatalog

/-- Why a settings file that exists cannot be used. One that holds no settings is told with its
text. -/
inductive SettingsError where
  | unreadable (path : Text) (fault : FileFault)
  | invalid (path t : Text)
  deriving DecidableEq, Repr

namespace SettingsError

/-- The wording of what is behind an error. What is wrong with a document only its reader can say,
which `diagnose` stands for. -/
def cause (diagnose : Text → Text) : SettingsError → Text
  | .unreadable _ fault => fault.message
  | .invalid _ t => diagnose t

def message (diagnose : Text → Text) : SettingsError → Text
  | .unreadable path fault =>
    "Failed to read config file at ".toList ++ path ++ ": ".toList ++ fault.message
  | .invalid path t =>
    "Failed to parse config file at ".toList ++ path ++ ": ".toList ++ diagnose t

end SettingsError

namespace Settings

def expandPaths (settings : Settings) (environment : Environment) : Settings :=
  { settings with
    sourcePaths := settings.sourcePaths.map environment.expand
    output := settings.output.map environment.expand }

def load (disk : Disk) (environment : Environment) (path : Text) :
    Except SettingsError (Option Settings) :=
  if disk.exists? path then
    match disk.readText path with
    | .error fault => .error (.unreadable path fault)
    | .ok t =>
      match (Toml.parse? t).bind ofEntries? with
      | none => .error (.invalid path t)
      | some settings => .ok (some (settings.expandPaths environment))
  else .ok none

/-- The settings file that is used unless another one is named. -/
def defaultPath (environment : Environment) : Text :=
  environment.replaceTilde "~/.config/kss-styleguide/config.toml".toList

end Settings

end StyleCatalog
