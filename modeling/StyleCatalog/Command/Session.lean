import StyleCatalog.Command.Error

/-! # Sessions

A run of the command reads and changes a session: the files there are, and what went out so far. A
part of a run may fail, and then the session stays as that part has left it. Nothing is taken back.
-/

namespace StyleCatalog

inductive Event where
  /-- The settings file that is looked for when none is named. -/
  | settingsPath (path : Text)
  | stylesheetsFound (count : Nat)
  | building (notice : Notice)
  | written (sections : Nat) (path : Text)
  deriving DecidableEq, Repr

/-- The wording of an event, with its level of importance. -/
def Event.message : Event → Text
  | .settingsPath path => "DEBUG: Config path: ".toList ++ path
  | .stylesheetsFound count =>
    "INFO: Found ".toList ++ Text.ofNat count ++ " stylesheets".toList
  | .building notice => notice.message
  | .written sections path =>
    "INFO: Wrote ".toList ++ Text.ofNat sections ++ " sections to ".toList ++ path

structure Session where
  disk : Disk
  printed : Text := []
  /-- The file that was written, and its text. -/
  written : Option (Text × Text) := none
  log : List Text := []

/-- A part of a run. Its session is there at the end whether it fails or not. -/
abbrev Run := EStateM CommandError Session

namespace Run

def ofExcept {α ε : Type} (failure : ε → CommandError) : Except ε α → Run α
  | .ok result => pure result
  | .error error => throw (failure error)

def log (events : List Event) : Run Unit :=
  modify fun session => { session with log := session.log ++ events.map Event.message }

def print (t : Text) : Run Unit :=
  modify fun session => { session with printed := session.printed ++ t }

/-- Write a text to a file. Whatever became of the disk, the session goes on with it. -/
def write (path t : Text) : Run Unit := fun session =>
  match Disk.writeText path t session.disk with
  | .ok () disk => .ok () { session with disk := disk, written := some (path, t) }
  | .error fault disk => .error (.output path fault) { session with disk := disk }

end Run

end StyleCatalog
