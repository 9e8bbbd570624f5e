import StyleCatalog.Text.Basic

/-! # TOML values

The data of a TOML document. Numbers with a fraction, dates and times are kept as they are spelled.
-/

namespace StyleCatalog

inductive Toml where
  | string (value : Text)
  | integer (value : Int)
  | float (spelling : Text)
  | bool (value : Bool)
  | moment (spelling : Text)
  | array (items : List Toml)
  | table (entries : List (Text × Toml))
  deriving Inhabited

namespace Toml

def lookup (key : Text) : List (Text × Toml) → Option Toml
  | [] => none
  | (name, value) :: rest => if name = key then some value else lookup key rest

def string? : Toml → Option Text
  | .string value => some value
  | _ => none

def bool? : Toml → Option Bool
  | .bool value => some value
  | _ => none

/-- The strings of an array that holds nothing else. -/
def strings? : Toml → Option (List Text)
  | .array items => items.mapM string?
  | _ => none

end Toml

end StyleCatalog
