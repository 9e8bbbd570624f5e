import StyleCatalog.Text.Basic

/-! # Parameters of a comment

A comment can carry parameters such as `sg-theme: light`, marked by a reserved beginning. A
parameter goes on over the lines below its opening line until a blank line or the next opening
line. The lines of a comment are cut into runs, each a single kept line or one parameter;
`parameters` and `withoutParameters` read off the two kinds.
-/

namespace StyleCatalog

structure Parameter where
  name : Text
  value : Text
  deriving DecidableEq, Repr

/-- A piece of a comment: a line that belongs to no parameter, or a parameter with the rest of its
opening line and the lines below. -/
inductive ParameterRun where
  | kept (line : Text)
  | parameter (name opening : Text) (below : List Text)
  deriving DecidableEq, Repr

namespace ParameterRun

def isNameChar (c : Char) : Bool := c.isAlphanum || c = '-' || c = '_'

def opening? (marker line : Text) : Option (Text × Text) :=
  match Text.dropPrefix? marker line.trimStart with
  | none => none
  | some rest =>
    match Text.cutAt? [':'] rest with
    | none => none
    | some (name, value) =>
      if !name.isEmpty && name.all isNameChar then some (name, value) else none

/-- Cut lines into runs. `opened` is the parameter that the lines may go on with. -/
def cut (marker : Text) : Option (Text × Text × List Text) → List Text → List ParameterRun
  | none, [] => []
  | some (name, value, below), [] => [.parameter name value below]
  | opened, line :: rest =>
    match opening? marker line with
    | some (name, value) =>
      (opened.map fun run => .parameter run.1 run.2.1 run.2.2).toList ++
        cut marker (some (name, value, [])) rest
    | none =>
      match opened with
      | none => .kept line :: cut marker none rest
      | some (name, value, below) =>
        if line.isBlankLine then
          .parameter name value below :: .kept line :: cut marker none rest
        else cut marker (some (name, value, below ++ [line])) rest

def ofText (marker t : Text) : List ParameterRun := cut marker none t.lines

def toParameter? : ParameterRun → Option Parameter
  | .kept _ => none
  | .parameter name value below => some ⟨name, Text.trim (Text.unlines (value :: below))⟩

def toKept? : ParameterRun → Option Text
  | .kept line => some line
  | .parameter _ _ _ => none

end ParameterRun

def parameters (marker t : Text) : List Parameter :=
  (ParameterRun.ofText marker t).filterMap ParameterRun.toParameter?

def withoutParameters (marker t : Text) : Text :=
  Text.unlines ((ParameterRun.ofText marker t).filterMap ParameterRun.toKept?)

end StyleCatalog
