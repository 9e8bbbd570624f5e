import StyleCatalog.Toml.Basic

/-! # Numbers, dates and truth values in TOML

A scalar without quotes is one word, decided by its spelling as a whole.
-/

namespace StyleCatalog.Toml

/-! ## Numbers -/

/-- Digits in which single underscores may stand between two digits. `last` says that a digit came
just before. -/
def isDigitRun (isDigit : Char → Bool) (last : Bool) : Text → Bool
  | [] => last
  | c :: rest =>
    if c = '_' then
      last && (rest.head?.map isDigit).getD false && isDigitRun isDigit false rest
    else isDigit c && isDigitRun isDigit true rest

def digitIn? (base : Nat) (c : Char) : Option Nat :=
  let value :=
    if c.isDigit then c.toNat - '0'.toNat
    else if 'a' ≤ c && c ≤ 'f' then c.toNat - 'a'.toNat + 10
    else if 'A' ≤ c && c ≤ 'F' then c.toNat - 'A'.toNat + 10
    else 16
  if value < base then some value else none

def runValue? (base : Nat) (t : Text) : Option Nat :=
  if isDigitRun (fun c => (digitIn? base c).isSome) false t then
    some ((t.filter (· ≠ '_')).foldl (fun total c => base * total + (digitIn? base c).getD 0) 0)
  else none

/-- A decimal number without needless zeros in front. -/
def isPlainRun (t : Text) : Bool :=
  isDigitRun Char.isDigit false t && (t = ['0'] || t.head? ≠ some '0')

/-- An integer that fits into 128 bits, with or without a sign. -/
def integerOf? (negative : Bool) (magnitude : Nat) : Option Toml :=
  if negative then
    if magnitude ≤ Nat.pow 2 127 then some (.integer (-Int.ofNat magnitude)) else none
  else if magnitude < Nat.pow 2 128 then some (.integer (Int.ofNat magnitude))
  else none

/-- A word without its sign, and whether that was a minus. -/
def splitSign : Text → Bool × Bool × Text
  | '+' :: rest => (true, false, rest)
  | '-' :: rest => (true, true, rest)
  | t => (false, false, t)

def integer? (word : Text) : Option Toml :=
  match word with
  | '0' :: 'x' :: digits => (runValue? 16 digits).bind (integerOf? false)
  | '0' :: 'o' :: digits => (runValue? 8 digits).bind (integerOf? false)
  | '0' :: 'b' :: digits => (runValue? 2 digits).bind (integerOf? false)
  | _ =>
    let (_, negative, digits) := splitSign word
    if isPlainRun digits then (runValue? 10 digits).bind (integerOf? negative) else none

def isExponent (t : Text) : Bool := isDigitRun Char.isDigit false (splitSign t).2.2

def plainValue (t : Text) : Nat := Text.digitsValue (t.filter (· ≠ '_'))

/-- Whether `digits * 10 ^ (exponent - places)` rounds to a finite number of double precision. The
first two tests keep the powers small. -/
def isFinite (digits exponent places : Nat) : Bool :=
  let size := (Text.ofNat digits).length
  if digits = 0 || size + exponent < places + 309 then true
  else if places + 310 < size + exponent then false
  else digits * Nat.pow 10 exponent < (Nat.pow 2 1024 - Nat.pow 2 970) * Nat.pow 10 places

def isFloat (word : Text) : Bool :=
  let body := (splitSign word).2.2
  if body = "inf".toList || body = "nan".toList then true
  else
    let isMark (c : Char) : Bool := c = 'e' || c = 'E'
    let mantissa := body.takeWhile fun c => !isMark c
    let exponent := (body.dropWhile fun c => !isMark c).drop 1
    let hasExponent := mantissa.length < body.length
    let whole := mantissa.takeWhile (· ≠ '.')
    let hasFraction := whole.length < mantissa.length
    let fraction := mantissa.drop (whole.length + 1)
    let (_, shrinks, size) := splitSign exponent
    (hasExponent || hasFraction) && isPlainRun whole &&
      (!hasFraction || isDigitRun Char.isDigit false fraction) &&
      (!hasExponent || isExponent exponent) &&
      (shrinks ||
        isFinite (plainValue (whole ++ fraction)) (plainValue size)
          (fraction.filter (· ≠ '_')).length)

/-! ## Dates and times -/

def digits? (count : Nat) (t : Text) : Option (Nat × Text) :=
  let digits := t.take count
  if digits.length = count && digits.all Char.isDigit then
    some (Text.digitsValue digits, t.drop count)
  else none

def after? (mark : Char) : Text → Option Text
  | [] => none
  | c :: rest => if c = mark then some rest else none

def daysIn (year month : Nat) : Nat :=
  if month = 2 then if year % 4 = 0 && (year % 100 ≠ 0 || year % 400 = 0) then 29 else 28
  else if month = 4 || month = 6 || month = 9 || month = 11 then 30
  else 31

def afterDate? (t : Text) : Option Text := do
  let (year, rest) ← digits? 4 t
  let (month, rest) ← digits? 2 (← after? '-' rest)
  let (day, rest) ← digits? 2 (← after? '-' rest)
  if 1 ≤ month && month ≤ 12 && 1 ≤ day && day ≤ daysIn year month then some rest else none

/-- What follows the seconds of a time, with or without a fraction. -/
def afterSeconds? (t : Text) : Option Text := do
  let (second, rest) ← digits? 2 t
  if 60 < second then none
  else
    match rest with
    | '.' :: fraction =>
      let digits := fraction.takeWhile Char.isDigit
      if digits.isEmpty then none else some (fraction.drop digits.length)
    | _ => some rest

/-- What follows a time of day, in which the seconds may be missing. -/
def afterTime? (t : Text) : Option Text := do
  let (hour, rest) ← digits? 2 t
  let (minute, rest) ← digits? 2 (← after? ':' rest)
  if 24 ≤ hour || 60 ≤ minute then none
  else
    match rest with
    | ':' :: seconds => afterSeconds? seconds
    | _ => some rest

def isOffset (t : Text) : Bool :=
  match t with
  | [] => true
  | ['Z'] => true
  | ['z'] => true
  | sign :: rest =>
    (sign = '+' || sign = '-') &&
      match (do
        let (hour, rest) ← digits? 2 rest
        let (minute, rest) ← digits? 2 (← after? ':' rest)
        if hour < 24 && minute < 60 && rest.isEmpty then some () else none) with
      | some _ => true
      | none => false

/-- Whether a word spells a date, a time of day, or both. -/
def isMoment (word : Text) : Bool :=
  match afterDate? word with
  | some [] => true
  | some (mark :: time) =>
    (mark = 'T' || mark = 't' || mark = ' ') && ((afterTime? time).map isOffset).getD false
  | none => afterTime? word = some []

/-! ## Words -/

def isWordChar (c : Char) : Bool :=
  c.isAlphanum || c = '_' || c = '+' || c = '-' || c = '.' || c = ':'

def ofWord? (word : Text) : Option Toml :=
  if word = "true".toList then some (.bool true)
  else if word = "false".toList then some (.bool false)
  else if isMoment word then some (.moment word)
  else
    match integer? word with
    | some value => some value
    | none => if isFloat word then some (.float word) else none

/-- The word at the start of a text. A space between a date and a time belongs to it. -/
def takeWord (t : Text) : Text × Text :=
  let word := t.takeWhile isWordChar
  let rest := t.drop word.length
  match afterDate? word, rest with
  | some [], ' ' :: more =>
    match more with
    | c :: _ =>
      if c.isDigit then
        let time := more.takeWhile isWordChar
        (word ++ ' ' :: time, more.drop time.length)
      else (word, rest)
    | [] => (word, rest)
  | _, _ => (word, rest)

end StyleCatalog.Toml
