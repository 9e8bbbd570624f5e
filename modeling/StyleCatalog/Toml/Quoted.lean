import StyleCatalog.Toml.Scalar

/-! # Strings in TOML

Strings in double quotes know escapes, strings in single quotes none; tripled quotes allow line
ends. Each reader starts after the opening quotes and gives back what follows the closing ones.
-/

namespace StyleCatalog.Toml

/-- A control character other than a tab, which may stand nowhere. -/
def isForbidden (c : Char) : Bool := (c.toNat < 0x20 && c ≠ '\t') || c.toNat = 0x7F

def escaped? (c : Char) : Option Char :=
  if c = '"' || c = '\\' then some c
  else if c = 'b' then some '\x08'
  else if c = 't' then some '\t'
  else if c = 'n' then some '\n'
  else if c = 'f' then some '\x0c'
  else if c = 'r' then some '\r'
  else if c = 'e' then some '\x1b'
  else none

def codeChar? (digits : Text) : Option Char :=
  if digits.all fun c => (digitIn? 16 c).isSome then
    let code := digits.foldl (fun total c => 16 * total + (digitIn? 16 c).getD 0) 0
    if code < 0xD800 || (0xDFFF < code && code ≤ 0x10FFFF) then some (Char.ofNat code) else none
  else none

def readEscape (t : Text) : Option (Char × Text) :=
  let numbered (count : Nat) (rest : Text) : Option (Char × Text) :=
    if rest.length < count then none
    else (codeChar? (rest.take count)).map fun c => (c, rest.drop count)
  match t with
  | [] => none
  | 'x' :: rest => numbered 2 rest
  | 'u' :: rest => numbered 4 rest
  | 'U' :: rest => numbered 8 rest
  | c :: rest => (escaped? c).map fun meant => (meant, rest)

def readBasic : Nat → Text → Option (Text × Text)
  | 0, _ => none
  | _ + 1, [] => none
  | steps + 1, c :: rest =>
    if c = '"' then some ([], rest)
    else if c = '\\' then
      (readEscape rest).bind fun (meant, after) =>
        (readBasic steps after).map fun read => (meant :: read.1, read.2)
    else if isForbidden c then none
    else (readBasic steps rest).map fun read => (c :: read.1, read.2)

def readLiteral : Text → Option (Text × Text)
  | [] => none
  | c :: rest =>
    if c = '\'' then some ([], rest)
    else if isForbidden c then none
    else (readLiteral rest).map fun read => (c :: read.1, read.2)

def afterLineEnd? : Text → Option Text
  | '\n' :: rest => some rest
  | '\r' :: '\n' :: rest => some rest
  | _ => none

def skipSpace : Text → Text
  | ' ' :: rest => skipSpace rest
  | '\t' :: rest => skipSpace rest
  | '\n' :: rest => skipSpace rest
  | '\r' :: '\n' :: rest => skipSpace rest
  | t => t

/-- The text after a backslash that ends its line: the blanks and line ends up to the next other
character are dropped. -/
def afterContinuation? (t : Text) : Option Text :=
  (afterLineEnd? (t.dropWhile fun c => c = ' ' || c = '\t')).map skipSpace

/-- Read a string in tripled quotes. Line ends are kept as they are, and quotes before the closing
ones belong to the string. -/
def readMultiline (quote : Char) (escapes : Bool) : Nat → Text → Option (Text × Text)
  | 0, _ => none
  | _ + 1, [] => none
  | steps + 1, c :: rest =>
    let go (read : Char) (after : Text) : Option (Text × Text) :=
      (readMultiline quote escapes steps after).map fun result => (read :: result.1, result.2)
    if c = quote then
      let count := ((c :: rest).takeWhile (· = quote)).length
      if count < 3 then go c rest
      else if 5 < count then none
      else some (List.replicate (count - 3) quote, (c :: rest).drop count)
    else if c = '\\' && escapes then
      match afterContinuation? rest with
      | some after => readMultiline quote escapes steps after
      | none => (readEscape rest).bind fun (meant, after) => go meant after
    else if isForbidden c && (afterLineEnd? (c :: rest)).isNone then none
    else go c rest

def readQuoted (quote : Char) (t : Text) : Option (Text × Text) :=
  match t with
  | a :: b :: rest =>
    if a = quote && b = quote then
      let body := (afterLineEnd? rest).getD rest
      readMultiline quote (quote = '"') (body.length + 1) body
    else if quote = '"' then readBasic (t.length + 1) t
    else readLiteral t
  | _ => if quote = '"' then readBasic (t.length + 1) t else readLiteral t

/-- Read a quoted key, which takes one line. -/
def readQuotedKey (quote : Char) (t : Text) : Option (Text × Text) :=
  if quote = '"' then readBasic (t.length + 1) t else readLiteral t

end StyleCatalog.Toml
