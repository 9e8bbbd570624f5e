import StyleCatalog.Markdown.NamedCharacter
import StyleCatalog.Markdown.Punctuation

/-! # Escapes

Character references and backslash escapes in Markdown, and the escaping of HTML.
-/

namespace StyleCatalog.Markdown

/-! ## Character references -/

def hexValue? (c : Char) : Option Nat :=
  if c.isDigit then some (c.toNat - '0'.toNat)
  else if 'a' ≤ c && c ≤ 'f' then some (c.toNat - 'a'.toNat + 10)
  else if 'A' ≤ c && c ≤ 'F' then some (c.toNat - 'A'.toNat + 10)
  else none

/-- The character with a code point. Zero, and a number that is no character's code point, give the
replacement character. -/
def charOfCode (code : Nat) : Char :=
  if 0 < code && (code < 0xD800 || (0xDFFF < code && code ≤ 0x10FFFF)) then Char.ofNat code
  else '\uFFFD'

def codeValue (base : Nat) (digits : Text) : Nat :=
  digits.foldl (fun total c => base * total + (hexValue? c).getD 0) 0

/-- A numeric character reference after its `&#`: the characters and what follows. At most
`limit` digits are read. -/
def numericReference? (base limit : Nat) (isDigit : Char → Bool) (t : Text) :
    Option (Text × Text) :=
  let digits := (t.takeWhile isDigit).take limit
  if digits.isEmpty then none
  else
    match t.drop digits.length with
    | ';' :: rest => some ([charOfCode (codeValue base digits)], rest)
    | _ => none

def characterReference? (t : Text) : Option (Text × Text) :=
  match t with
  | '#' :: 'x' :: rest => numericReference? 16 6 (fun c => (hexValue? c).isSome) rest
  | '#' :: 'X' :: rest => numericReference? 16 6 (fun c => (hexValue? c).isSome) rest
  | '#' :: rest => numericReference? 10 7 Char.isDigit rest
  | _ =>
    match t.dropWhile Char.isAlphanum with
    | ';' :: rest => (namedCharacters? (t.takeWhile Char.isAlphanum)).map fun cs => (cs, rest)
    | _ => none

/-- Resolve backslash escapes and character references. The counter bounds the steps. -/
def unescapeFrom : Nat → Text → Text
  | 0, t => t
  | _ + 1, [] => []
  | steps + 1, '\\' :: c :: rest =>
    if isAsciiPunctuation c then c :: unescapeFrom steps rest
    else '\\' :: unescapeFrom steps (c :: rest)
  | steps + 1, '&' :: rest =>
    match characterReference? rest with
    | some (characters, after) => characters ++ unescapeFrom steps after
    | none => '&' :: unescapeFrom steps rest
  | steps + 1, c :: rest => c :: unescapeFrom steps rest

def unescape (t : Text) : Text := unescapeFrom t.length t

/-! ## HTML -/

def escapeBodyChar (c : Char) : Text :=
  if c = '&' then "&amp;".toList
  else if c = '<' then "&lt;".toList
  else if c = '>' then "&gt;".toList
  else [c]

/-- Text in the body of an HTML element: `&`, `<` and `>` are escaped. -/
def escapeBody (t : Text) : Text := t.flatMap escapeBodyChar

def escapeAttributeChar (c : Char) : Text :=
  if c = '"' then "&quot;".toList
  else if c = '\'' then "&#39;".toList
  else escapeBodyChar c

/-- Text in the value of an HTML attribute: quotes are escaped as well. -/
def escapeAttribute (t : Text) : Text := t.flatMap escapeAttributeChar

def isSafeInAddress (c : Char) : Bool :=
  c.isAlphanum || "!#$%()*+,-./:;=?@_~".toList.contains c

def percentByte (byte : Nat) : Text :=
  let digit (n : Nat) : Char :=
    if n < 10 then Char.ofNat ('0'.toNat + n) else Char.ofNat ('A'.toNat + (n - 10))
  ['%', digit (byte / 16), digit (byte % 16)]

/-- A character in an address: `&` and the apostrophe are escaped as in HTML, and every other
unsafe character byte by byte. -/
def escapeAddressChar (c : Char) : Text :=
  if isSafeInAddress c then [c]
  else if c = '&' then "&amp;".toList
  else if c = '\'' then "&#x27;".toList
  else (String.utf8EncodeChar c).flatMap fun byte => percentByte byte.toNat

def escapeAddress (t : Text) : Text := t.flatMap escapeAddressChar

end StyleCatalog.Markdown
