import StyleCatalog.Text.Basic

/-! # The arguments of the command

Arguments are read from left to right, and the first one that decides the outcome does so: a wrong
argument, or a wish for help or for the version. Options may stand between paths; after two dashes
all is a path.
-/

namespace StyleCatalog

structure Arguments where
  paths : List Text := []
  settingsPath : Option Text := none
  output : Option Text := none
  noMarkdown : Bool := false
  compact : Bool := false
  deriving DecidableEq, Repr

inductive Demand where
  | help
  | version
  | build (arguments : Arguments)
  deriving DecidableEq, Repr

inductive ValueOption where
  | settings
  | output
  deriving DecidableEq, Repr

namespace Arguments

def addPath (arguments : Arguments) (path : Text) : Option Arguments :=
  if path.isEmpty then none else some { arguments with paths := arguments.paths ++ [path] }

/-- Give an option its value, which cannot be empty. No option is given twice. -/
def setValue (arguments : Arguments) (chosen : ValueOption) (value : Text) : Option Arguments :=
  if value.isEmpty then none
  else
    match chosen with
    | .settings =>
      if arguments.settingsPath.isSome then none
      else some { arguments with settingsPath := some value }
    | .output =>
      if arguments.output.isSome then none else some { arguments with output := some value }

def addPaths : List Text → Arguments → Option Arguments
  | [], arguments => some arguments
  | path :: rest, arguments => (arguments.addPath path).bind (addPaths rest)

end Arguments

inductive Argument where
  | path (path : Text)
  | divider
  | help
  | version
  | noMarkdown
  | compact
  /-- An option whose value is the next argument. -/
  | awaiting (chosen : ValueOption)
  | valued (chosen : ValueOption) (value : Text)
  | unknown
  deriving DecidableEq, Repr

namespace Argument

/-- The meaning of what stands between two dashes and an equals sign or the end. -/
def ofLongName (name : Text) : Argument :=
  if name = "help".toList then .help
  else if name = "version".toList then .version
  else if name = "no-markdown".toList then .noMarkdown
  else if name = "compact".toList then .compact
  else if name = "config".toList then .awaiting .settings
  else if name = "output".toList then .awaiting .output
  else .unknown

/-- The meaning of what follows two dashes. Only an option takes a value after an equals sign. -/
def ofLong (t : Text) : Argument :=
  match Text.cutAt? ['='] t with
  | none => ofLongName t
  | some (name, value) =>
    match ofLongName name with
    | .awaiting chosen => .valued chosen value
    | _ => .unknown

/-- An option by its letter, with what follows the letter as its value. -/
def ofShortOption (chosen : ValueOption) : Text → Argument
  | [] => .awaiting chosen
  | '=' :: value => .valued chosen value
  | value => .valued chosen value

def ofShort : Text → Argument
  | 'h' :: _ => .help
  | 'V' :: _ => .version
  | 'c' :: rest => ofShortOption .settings rest
  | 'o' :: rest => ofShortOption .output rest
  | _ => .unknown

/-- The meaning of an argument. A single dash is a path like any other. -/
def ofText : Text → Argument
  | ['-'] => .path ['-']
  | ['-', '-'] => .divider
  | '-' :: '-' :: rest => ofLong rest
  | '-' :: rest => ofShort rest
  | t => .path t

end Argument

namespace Demand

/-- Read the arguments that follow those already read. Without a result they cannot be followed. -/
def read (arguments : Arguments) : List Text → Option Demand
  | [] => some (.build arguments)
  | t :: rest =>
    match Argument.ofText t with
    | .path path => (arguments.addPath path).bind fun next => read next rest
    | .divider => (arguments.addPaths rest).map .build
    | .help => some .help
    | .version => some .version
    | .noMarkdown =>
      if arguments.noMarkdown then none else read { arguments with noMarkdown := true } rest
    | .compact => if arguments.compact then none else read { arguments with compact := true } rest
    | .valued chosen value => (arguments.setValue chosen value).bind fun next => read next rest
    | .awaiting chosen =>
      match rest with
      | [] => none
      | value :: more =>
        match Argument.ofText value with
        | .path path => (arguments.setValue chosen path).bind fun next => read next more
        | _ => none
    | .unknown => none

def ofArguments? (arguments : List Text) : Option Demand := read {} arguments

end Demand

end StyleCatalog
