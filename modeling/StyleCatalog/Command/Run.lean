import StyleCatalog.Command.Arguments
import StyleCatalog.Command.Session
import StyleCatalog.Json.Printer
import StyleCatalog.Section.Record

/-! # The command

The command reads settings and stylesheets and prints the catalogue, or writes it to a file. It is a
function from the files before to the files after, with what it prints and its exit code.
-/

namespace StyleCatalog

/-! ## Building -/

namespace Arguments

/-- The settings of a build: those of the named file, which must exist, or those of the default file
if that exists. -/
def loadSettings (asked : Arguments) (environment : Environment) : Run Settings := do
  let disk := (← get).disk
  match asked.settingsPath with
  | some path =>
    match ← Run.ofExcept .settings (Settings.load disk environment path) with
    | none => throw (.settingsMissing path)
    | some settings => return settings
  | none =>
    let path := Settings.defaultPath environment
    Run.log [.settingsPath path]
    return (← Run.ofExcept .settings (Settings.load disk environment path)).getD {}

def searched (asked : Arguments) (settings : Settings) : List Text :=
  if asked.paths.isEmpty then settings.sourcePaths else asked.paths

def readSources (asked : Arguments) (settings : Settings) : Run (List SourceFile) := do
  let disk := (← get).disk
  let paths := asked.searched settings
  if paths.isEmpty then throw .noPaths
  else
    let files ← Run.ofExcept .source (settings.stylesheets disk paths)
    Run.log [.stylesheetsFound files.length]
    Run.ofExcept .source (disk.readSources files)

def options (asked : Arguments) (settings : Settings) : Options :=
  { settings.options with markdown := settings.options.markdown && !asked.noMarkdown }

/-- The sections of stylesheets. What building them tells is logged even if it fails. -/
def makeCatalog (asked : Arguments) (settings : Settings) (sources : List SourceFile) :
    Run (List Section) := do
  let builder := (asked.options settings).builder
  Run.log ((builder.log sources).map .building)
  return (← Run.ofExcept .catalog (builder.catalog sources)).sections

def render (asked : Arguments) (sections : List Section) : Text :=
  let value := Json.array (sections.map Section.toJson)
  if asked.compact then value.compact else value.prettyText

/-- Print a catalogue, or write it to the file that the arguments or else the settings name. -/
def deliver (asked : Arguments) (settings : Settings) (sections : List Section) : Run Unit :=
  let t := asked.render sections
  match asked.output.or settings.output with
  | none => Run.print (t ++ ['\n'])
  | some path => do
    Run.write path t
    Run.log [.written sections.length path]

def build (asked : Arguments) (environment : Environment) : Run Unit := do
  let settings ← asked.loadSettings environment
  let sources ← asked.readSources settings
  let sections ← asked.makeCatalog settings sources
  asked.deliver settings sections

end Arguments

/-! ## Running -/

/-- What a run leaves behind: its session, the exit code, and the report of an error. The log goes
to the same place as the report, each event on a line that begins with the time and only from a
level on that the environment chooses; these lines are no part of `reported`. -/
structure Outcome extends Session where
  exitCode : Nat
  reported : Text := []

def versionLine : Text := "styleguide-cli 0.1.0\n".toList

def helpText : Text := Text.unlines <| List.map String.toList
  ["Build style-guide sections from KSS stylesheet comments",
    "",
    "Usage: styleguide-cli [OPTIONS] [PATHS]...",
    "",
    "Arguments:",
    "  [PATHS]...  Stylesheet files or directories (defaults to source_paths from the config file)",
    "",
    "Options:",
    "  -c, --config <CONFIG>  Config file to use instead of ~/.config/kss-styleguide/config.toml",
    "  -o, --output <OUTPUT>  Write the JSON here instead of stdout",
    "      --no-markdown      Keep header and description text as escaped plain text",
    "      --compact          Emit single-line JSON",
    "  -h, --help             Print help",
    "  -V, --version          Print version",
    ""]

/-- Run the command. After an error the files are what the build has made of them. -/
def runCommand (diagnostics : Diagnostics) (disk : Disk) (environment : Environment)
    (arguments : List Text) : Outcome :=
  match Demand.ofArguments? arguments with
  | none => { disk := disk, exitCode := 2, reported := diagnostics.usage arguments }
  | some .help => { disk := disk, exitCode := 0, printed := helpText }
  | some .version => { disk := disk, exitCode := 0, printed := versionLine }
  | some (.build asked) =>
    match asked.build environment { disk := disk } with
    | .ok () session => { session with exitCode := 0 }
    | .error error session =>
      { session with exitCode := 1, reported := error.report diagnostics }

end StyleCatalog
