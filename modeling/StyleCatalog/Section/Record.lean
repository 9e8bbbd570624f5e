import StyleCatalog.Json.Printer
import StyleCatalog.Json.Reader
import StyleCatalog.Section.Basic

/-! # The record of a section

A section is exchanged as a JSON object: its standard fields under fixed keys, absent optional
fields left out, and its extra parameters beside them. A key that is no standard one holds an extra
parameter.
-/

namespace StyleCatalog

def standardKeys : List Text :=
  ["header", "description", "modifiers", "deprecated", "experimental", "reference",
    "stringReference", "weight", "markup", "css", "file", "syntax"].map String.toList

/-- The field of an optional text, left out when it is absent. -/
def optionalField (key : Text) (value : Option Text) : List (Text × Json) :=
  (value.map fun t => (key, Json.string t)).toList

namespace Modifier

def toJson (modifier : Modifier) : Json :=
  .object <|
    [("id".toList, .integer modifier.id.toNat),
      ("name".toList, .string modifier.name),
      ("description".toList, .string modifier.description),
      ("className".toList, .string modifier.className)] ++
    optionalField "markup".toList modifier.markup

end Modifier

namespace Section

def toJson (s : Section) : Json :=
  .object <|
    [("header".toList, .string s.header),
      ("description".toList, .string s.description),
      ("modifiers".toList, .array (s.modifiers.map Modifier.toJson)),
      ("deprecated".toList, .bool s.deprecated),
      ("experimental".toList, .bool s.experimental),
      ("reference".toList, .string s.reference)] ++
    optionalField "stringReference".toList s.stringReference ++
    [("weight".toList, .integer s.weight.value)] ++
    optionalField "markup".toList s.markup ++
    optionalField "css".toList s.css ++
    [("file".toList, .string s.file), ("syntax".toList, .string s.dialect)] ++
    s.extras.entries.map fun entry => (entry.1, .string entry.2)

end Section

/-! ## Reading records -/

def requiredText? (key : Text) (fields : List (Text × Json)) : Option Text :=
  (Json.lookup key fields).bind Json.string?

def requiredBool? (key : Text) (fields : List (Text × Json)) : Option Bool :=
  (Json.lookup key fields).bind Json.bool?

/-- A text that may be absent or null. -/
def optionalText? (key : Text) (fields : List (Text × Json)) : Option (Option Text) :=
  match Json.lookup key fields with
  | none => some none
  | some .null => some none
  | some (.string t) => some (some t)
  | some _ => none

/-- A text that is empty when it is absent. -/
def defaultedText? (key : Text) (fields : List (Text × Json)) : Option Text :=
  match Json.lookup key fields with
  | none => some []
  | some value => value.string?

/-- A weight that is zero when it is absent. -/
def defaultedWeight? (fields : List (Text × Json)) : Option Weight :=
  match Json.lookup "weight".toList fields with
  | none => some .zero
  | some value => value.integer?.bind Weight.ofInt?

namespace Modifier

/-- The position that a JSON value gives: an integer of 64 bits, not negative. -/
def idOf? (value : Json) : Option UInt64 :=
  value.integer?.bind fun n =>
    if 0 ≤ n && n ≤ 0xFFFFFFFFFFFFFFFF then some (UInt64.ofNat n.toNat) else none

/-- The modifier that a record describes. Unknown keys are passed over. -/
def ofJson? (value : Json) : Option Modifier := do
  let fields ← value.fields?
  let id ← (Json.lookup "id".toList fields).bind idOf?
  let name ← requiredText? "name".toList fields
  let description ← requiredText? "description".toList fields
  let className ← requiredText? "className".toList fields
  let markup ← optionalText? "markup".toList fields
  return ⟨id, name, description, className, markup⟩

end Modifier

def readAll? {α : Type} (read : Json → Option α) : List Json → Option (List α)
  | [] => some []
  | item :: rest => do
    let first ← read item
    let others ← readAll? read rest
    return first :: others

/-- Collect the extra parameters: every field with a key that is no standard one, which has to hold
a text. -/
def readExtras? (extras : Extras) : List (Text × Json) → Option Extras
  | [] => some extras
  | (key, value) :: rest =>
    if standardKeys.contains key then readExtras? extras rest
    else
      match value with
      | .string t => readExtras? (extras.insert key t) rest
      | _ => none

namespace Section

def ofJson? (value : Json) : Option Section := do
  let fields ← value.fields?
  let header ← requiredText? "header".toList fields
  let description ← requiredText? "description".toList fields
  let modifiers ← (Json.lookup "modifiers".toList fields).bind Json.items?
  let modifiers ← readAll? Modifier.ofJson? modifiers
  let deprecated ← requiredBool? "deprecated".toList fields
  let experimental ← requiredBool? "experimental".toList fields
  let reference ← requiredText? "reference".toList fields
  let stringReference ← optionalText? "stringReference".toList fields
  let weight ← defaultedWeight? fields
  let markup ← optionalText? "markup".toList fields
  let css ← optionalText? "css".toList fields
  let file ← defaultedText? "file".toList fields
  let dialect ← defaultedText? "syntax".toList fields
  let extras ← readExtras? .empty fields
  return ⟨header, description, modifiers, deprecated, experimental, reference, stringReference,
    weight, markup, css, file, dialect, extras⟩

end Section

end StyleCatalog
