import StyleCatalog.Json.Basic

/-! # Writing JSON

Two layouts of a JSON value: compact, on one line, and pretty, with one field or item a line and
two spaces of indentation a level.
-/

namespace StyleCatalog.Json

def hexDigit (n : Nat) : Char :=
  if n < 10 then Char.ofNat ('0'.toNat + n) else Char.ofNat ('a'.toNat + (n - 10))

/-- A character inside a JSON string: quotes, backslashes and control characters are escaped, all
else stands for itself. -/
def escapeChar (c : Char) : Text :=
  if c = '"' then ['\\', '"']
  else if c = '\\' then ['\\', '\\']
  else if c = '\n' then ['\\', 'n']
  else if c = '\r' then ['\\', 'r']
  else if c = '\t' then ['\\', 't']
  else if c = '\x08' then ['\\', 'b']
  else if c = '\x0c' then ['\\', 'f']
  else if c.toNat < 0x20 then
    ['\\', 'u', '0', '0', hexDigit (c.toNat / 16), hexDigit (c.toNat % 16)]
  else [c]

def quote (t : Text) : Text := '"' :: (t.flatMap escapeChar ++ ['"'])

def boolWord (value : Bool) : Text := if value then "true".toList else "false".toList

mutual

/-- The value on one line, without blanks. -/
def compact : Json → Text
  | .null => "null".toList
  | .bool value => boolWord value
  | .integer value => Text.ofInt value
  | .number spelling => spelling
  | .string value => quote value
  | .array items => '[' :: (compactItems items ++ [']'])
  | .object fields => '\x7b' :: (compactFields fields ++ ['\x7d'])

def compactItems : List Json → Text
  | [] => []
  | item :: rest =>
    match rest with
    | [] => compact item
    | _ :: _ => compact item ++ ',' :: compactItems rest

def compactFields : List (Text × Json) → Text
  | [] => []
  | (key, value) :: rest =>
    match rest with
    | [] => quote key ++ ':' :: compact value
    | _ :: _ => quote key ++ ':' :: (compact value ++ ',' :: compactFields rest)

end

def newLine (depth : Nat) : Text := '\n' :: List.replicate (2 * depth) ' '

mutual

/-- The value over several lines, its inner lines at depth `depth + 1`. -/
def pretty (depth : Nat) : Json → Text
  | .null => "null".toList
  | .bool value => boolWord value
  | .integer value => Text.ofInt value
  | .number spelling => spelling
  | .string value => quote value
  | .array [] => "[]".toList
  | .array (item :: rest) =>
    '[' :: (newLine (depth + 1) ++ pretty (depth + 1) item ++ prettyItems depth rest ++
      newLine depth ++ [']'])
  | .object [] => ['\x7b', '\x7d']
  | .object ((key, value) :: rest) =>
    '\x7b' :: (newLine (depth + 1) ++ quote key ++ ':' :: ' ' :: pretty (depth + 1) value ++
      prettyFields depth rest ++ newLine depth ++ ['\x7d'])

/-- The items after the first, each after a comma on a line of its own. -/
def prettyItems (depth : Nat) : List Json → Text
  | [] => []
  | item :: rest =>
    ',' :: (newLine (depth + 1) ++ pretty (depth + 1) item ++ prettyItems depth rest)

def prettyFields (depth : Nat) : List (Text × Json) → Text
  | [] => []
  | (key, value) :: rest =>
    ',' :: (newLine (depth + 1) ++ quote key ++ ':' :: ' ' :: pretty (depth + 1) value ++
      prettyFields depth rest)

end

def prettyText (value : Json) : Text := pretty 0 value

end StyleCatalog.Json
