import StyleCatalog.Json.Basic

/-! # Reading JSON

A reader for complete JSON texts. Each function reads from the front of the remaining text and
gives back what follows; the counter bounds the steps by the length of the text.
-/

namespace StyleCatalog.Json

/-- The blanks that JSON allows between tokens. -/
def isGap (c : Char) : Bool := c = ' ' || c = '\n' || c = '\t' || c = '\r'

def skipGap (t : Text) : Text := t.dropWhile isGap

def hexValue? (c : Char) : Option Nat :=
  if c.isDigit then some (c.toNat - '0'.toNat)
  else if 'a' ≤ c && c ≤ 'f' then some (c.toNat - 'a'.toNat + 10)
  else if 'A' ≤ c && c ≤ 'F' then some (c.toNat - 'A'.toNat + 10)
  else none

def hexCode? (a b c d : Char) : Option Nat := do
  let a ← hexValue? a
  let b ← hexValue? b
  let c ← hexValue? c
  let d ← hexValue? d
  return ((a * 16 + b) * 16 + c) * 16 + d

def escaped? (c : Char) : Option Char :=
  if c = '"' || c = '\\' || c = '/' then some c
  else if c = 'n' then some '\n'
  else if c = 'r' then some '\r'
  else if c = 't' then some '\t'
  else if c = 'b' then some '\x08'
  else if c = 'f' then some '\x0c'
  else none

/-- Read the inside of a string literal, up to and including its closing quote. Two escaped
surrogates make one character; a lone one is refused. -/
def readString : Text → Option (Text × Text)
  | [] => none
  | '"' :: rest => some ([], rest)
  | '\\' :: 'u' :: a :: b :: c :: d :: rest =>
    match hexCode? a b c d with
    | none => none
    | some code =>
      if code < 0xD800 || 0xDFFF < code then
        (readString rest).map fun read => (Char.ofNat code :: read.1, read.2)
      else
        match rest with
        | '\\' :: 'u' :: e :: f :: g :: h :: more =>
          match hexCode? e f g h with
          | none => none
          | some low =>
            if code < 0xDC00 && 0xDC00 ≤ low && low ≤ 0xDFFF then
              let both := 0x10000 + (code - 0xD800) * 0x400 + (low - 0xDC00)
              (readString more).map fun read => (Char.ofNat both :: read.1, read.2)
            else none
        | _ => none
  | '\\' :: c :: rest =>
    match escaped? c with
    | none => none
    | some meant => (readString rest).map fun read => (meant :: read.1, read.2)
  | c :: rest =>
    if c.toNat < 0x20 || c = '\\' then none
    else (readString rest).map fun read => (c :: read.1, read.2)

def readFraction (t : Text) : Option (Text × Text) :=
  match t with
  | '.' :: rest =>
    let digits := rest.takeWhile Char.isDigit
    if digits.isEmpty then none else some ('.' :: digits, rest.dropWhile Char.isDigit)
  | _ => some ([], t)

def readExponent (t : Text) : Option (Text × Text) :=
  match t with
  | [] => some ([], [])
  | mark :: rest =>
    if mark = 'e' || mark = 'E' then
      let sign := rest.takeWhile fun c => c = '+' || c = '-'
      let after := rest.dropWhile fun c => c = '+' || c = '-'
      let digits := after.takeWhile Char.isDigit
      if digits.isEmpty || 1 < sign.length then none
      else some (mark :: sign ++ digits, after.dropWhile Char.isDigit)
    else some ([], t)

/-- The value of a number's spelling: an integer when it has neither fraction nor exponent, fits
into 64 bits and is not a negative zero. -/
def ofSpelling (negative : Bool) (whole more : Text) : Json :=
  let magnitude := Text.digitsValue whole
  let spelling := (if negative then ['-'] else []) ++ whole ++ more
  if !more.isEmpty then .number spelling
  else if negative then
    if 0 < magnitude && magnitude ≤ 0x8000000000000000 then .integer (-Int.ofNat magnitude)
    else .number spelling
  else if magnitude ≤ 0xFFFFFFFFFFFFFFFF then .integer (Int.ofNat magnitude)
  else .number spelling

/-- Read a number. A leading zero stands alone. -/
def readNumber (t : Text) : Option (Json × Text) := do
  let negative := Text.startsWith ['-'] t
  let body := if negative then t.drop 1 else t
  let whole := body.takeWhile Char.isDigit
  if whole.isEmpty || (Text.startsWith ['0'] whole && 1 < whole.length) then none
  else
    let (fraction, rest) ← readFraction (body.dropWhile Char.isDigit)
    let (exponent, rest) ← readExponent rest
    return (ofSpelling negative whole (fraction ++ exponent), rest)

mutual

def readValue : Nat → Text → Option (Json × Text)
  | 0, _ => none
  | steps + 1, t =>
    match skipGap t with
    | [] => none
    | '"' :: rest => (readString rest).map fun read => (.string read.1, read.2)
    | '[' :: rest =>
      match skipGap rest with
      | ']' :: after => some (.array [], after)
      | inside => (readItems steps inside).map fun read => (.array read.1, read.2)
    | '\x7b' :: rest =>
      match skipGap rest with
      | '\x7d' :: after => some (.object [], after)
      | inside => (readFields steps inside).map fun read => (.object read.1, read.2)
    | 'n' :: 'u' :: 'l' :: 'l' :: rest => some (.null, rest)
    | 't' :: 'r' :: 'u' :: 'e' :: rest => some (.bool true, rest)
    | 'f' :: 'a' :: 'l' :: 's' :: 'e' :: rest => some (.bool false, rest)
    | other => readNumber other

/-- Read the items of an array, up to and including its closing bracket. -/
def readItems : Nat → Text → Option (List Json × Text)
  | 0, _ => none
  | steps + 1, t =>
    match readValue steps t with
    | none => none
    | some (item, rest) =>
      match skipGap rest with
      | ',' :: more => (readItems steps more).map fun read => (item :: read.1, read.2)
      | ']' :: after => some ([item], after)
      | _ => none

def readFields : Nat → Text → Option (List (Text × Json) × Text)
  | 0, _ => none
  | steps + 1, t =>
    match skipGap t with
    | '"' :: rest =>
      match readString rest with
      | none => none
      | some (key, afterKey) =>
        match skipGap afterKey with
        | ':' :: afterColon =>
          match readValue steps afterColon with
          | none => none
          | some (value, afterValue) =>
            match skipGap afterValue with
            | ',' :: more =>
              (readFields steps more).map fun read => ((key, value) :: read.1, read.2)
            | '\x7d' :: after => some ([(key, value)], after)
            | _ => none
        | _ => none
    | _ => none

end

def parse? (t : Text) : Option Json :=
  match readValue (2 * t.length + 2) t with
  | some (value, rest) => if (skipGap rest).isEmpty then some value else none
  | none => none

end StyleCatalog.Json
