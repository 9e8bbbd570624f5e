import StyleCatalog.Text.Basic

/-! # JSON values

The data that is read and written as JSON. Integers that fit into 64 bits are kept as such; every
other number is kept as it is spelled.
-/

namespace StyleCatalog

/-- A JSON value. The fields of an object keep their order. -/
inductive Json where
  | null
  | bool (value : Bool)
  | integer (value : Int)
  | number (spelling : Text)
  | string (value : Text)
  | array (items : List Json)
  | object (fields : List (Text × Json))
  deriving Inhabited

namespace Json

/-- The value under a name; of several fields with one name the last counts. -/
def lookup (name : Text) : List (Text × Json) → Option Json
  | [] => none
  | (key, value) :: rest =>
    match lookup name rest with
    | some later => some later
    | none => if key = name then some value else none

def fields? : Json → Option (List (Text × Json))
  | .object fields => some fields
  | _ => none

def string? : Json → Option Text
  | .string value => some value
  | _ => none

def bool? : Json → Option Bool
  | .bool value => some value
  | _ => none

def integer? : Json → Option Int
  | .integer value => some value
  | _ => none

def items? : Json → Option (List Json)
  | .array items => some items
  | _ => none

end Json

end StyleCatalog
