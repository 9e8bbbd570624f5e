import StyleCatalog.Text.Alphanumeric
import StyleCatalog.Text.Basic

/-! # Variables in paths

A path in a settings file may name variables of the environment and, by a tilde at its start, the
home directory.
-/

namespace StyleCatalog

abbrev Environment := List (Text × Text)

namespace Environment

def get? (environment : Environment) (name : Text) : Option Text :=
  environment.lookup name

def home? (environment : Environment) : Option Text :=
  (environment.get? "HOME".toList).filter fun home => !home.isEmpty

/-- The name and the default in the braces of a variable. A default follows the first `:-`, unless
that stands where the name should be. -/
def splitDefault (inside : Text) : Text × Option Text :=
  match Text.cutAt? [':', '-'] inside with
  | some (name, default) => if name.isEmpty then (inside, none) else (name, some default)
  | none => (inside, none)

def isNameChar (c : Char) : Bool := isAlphanumeric c || c = '_'

/-- The names of all variables that the replacing of a text may look up. -/
def mentioned : Text → List Text
  | [] => []
  | '$' :: '\x7b' :: rest => (splitDefault (rest.takeWhile (· ≠ '\x7d'))).1 :: mentioned rest
  | '$' :: rest => rest.takeWhile isNameChar :: mentioned rest
  | _ :: rest => mentioned rest

/-- Replace the variables in a text. A dollar sign before another stands for itself, and so does one
that no name follows, or a brace that is never closed. A variable that is not set and has no default
spoils all. The counter bounds the steps. -/
def replaceVariables (environment : Environment) : Nat → Text → Option Text
  | 0, t => some t
  | _ + 1, [] => some []
  | steps + 1, '$' :: '\x7b' :: rest =>
    match Text.cutAt? ['\x7d'] rest with
    | none => (environment.replaceVariables steps rest).map fun after => '$' :: '\x7b' :: after
    | some (inside, more) =>
      let (name, default) := splitDefault inside
      match (environment.get? name).or default with
      | none => none
      | some value => (environment.replaceVariables steps more).map (value ++ ·)
  | steps + 1, '$' :: '$' :: rest => (environment.replaceVariables steps rest).map ('$' :: ·)
  | steps + 1, '$' :: rest =>
    let name := rest.takeWhile isNameChar
    if name.isEmpty then (environment.replaceVariables steps rest).map ('$' :: ·)
    else
      match environment.get? name with
      | none => none
      | some value =>
        (environment.replaceVariables steps (rest.drop name.length)).map (value ++ ·)
  | steps + 1, c :: rest => (environment.replaceVariables steps rest).map (c :: ·)

/-- The path with the home directory in place of a tilde that is its first piece. -/
def replaceTilde (environment : Environment) (path : Text) : Text :=
  match path, environment.home? with
  | '~' :: rest, some home => if rest.isEmpty || rest.head? = some '/' then home ++ rest else path
  | _, _ => path

/-- The path with its variables and its tilde replaced. A tilde that comes out of a variable means
nothing, and a path with a variable that is not set stays as it is. -/
def expand (environment : Environment) (path : Text) : Text :=
  match environment.replaceVariables path.length path with
  | none => path
  | some replaced =>
    if Text.startsWith ['~'] path || !Text.startsWith ['~'] replaced then
      environment.replaceTilde replaced
    else replaced

end Environment

end StyleCatalog
