import StyleCatalog.Text.Blank

/-! # Text

Comments, references and rendered fragments are lists of characters. This module holds the
operations on them that every later module uses: trimming, cutting into lines, searching and
replacing, and the order by code points.
-/

namespace StyleCatalog

abbrev Text := List Char

namespace Text

/-! ## Trimming -/

def trimStart (t : Text) : Text := t.dropWhile isBlank

def trimEnd (t : Text) : Text := (t.reverse.dropWhile isBlank).reverse

def trim (t : Text) : Text := trimEnd (trimStart t)

def dropEndWhile (p : Char → Bool) (t : Text) : Text := (t.reverse.dropWhile p).reverse

def isBlankLine (t : Text) : Bool := t.all isBlank

/-! ## Lines -/

/-- The pieces of a text that each end in a line feed, the last one possibly without. Nothing is
lost: the pieces concatenate to the text. -/
def lineRuns : Text → List Text
  | [] => []
  | c :: rest =>
    if c = '\n' then [c] :: lineRuns rest
    else match lineRuns rest with
      | [] => [[c]]
      | run :: runs => (c :: run) :: runs

/-- A line run without its line feed, and without one carriage return before that line feed. -/
def lineBody (run : Text) : Text :=
  match run.reverse with
  | '\n' :: '\r' :: rest => rest.reverse
  | '\n' :: rest => rest.reverse
  | _ => run

/-- The lines of a text. A line ends at a line feed; a carriage return right before it belongs to
the line end, and any other carriage return is an ordinary character. -/
def lines (t : Text) : List Text := (lineRuns t).map lineBody

def unlines (ls : List Text) : Text := List.intercalate ['\n'] ls

/-! ## Searching -/

def dropPrefix? (marker t : Text) : Option Text := marker.isPrefixOf? t

def startsWith (marker t : Text) : Bool := marker.isPrefixOf t

def cutAt? (marker : Text) : Text → Option (Text × Text)
  | [] => if marker.isEmpty then some ([], []) else none
  | c :: rest =>
    match dropPrefix? marker (c :: rest) with
    | some after => some ([], after)
    | none => (cutAt? marker rest).map fun cut => (c :: cut.1, cut.2)

def hasInfix (marker t : Text) : Bool := (cutAt? marker t).isSome

/-- The pieces of a text between the occurrences of a character: always at least one. -/
def splitAtChar (separator : Char) : Text → List Text
  | [] => [[]]
  | c :: rest =>
    if c = separator then [] :: splitAtChar separator rest
    else match splitAtChar separator rest with
      | [] => [[c]]
      | piece :: pieces => (c :: piece) :: pieces

/-! ## Replacing -/

/-- Replace the occurrences of the pattern `first :: more`, found from left to right without
overlap. The counter `skip` is the number of characters of a found occurrence still to be passed
over. -/
def replaceFrom (first : Char) (more replacement : Text) : Nat → Text → Text
  | _, [] => []
  | skip + 1, _ :: rest => replaceFrom first more replacement skip rest
  | 0, c :: rest =>
    if (first :: more).isPrefixOf (c :: rest) then
      replacement ++ replaceFrom first more replacement more.length rest
    else c :: replaceFrom first more replacement 0 rest

/-- Replace every occurrence of `pattern`, found from left to right without overlap. An empty
pattern occurs nowhere. -/
def replaceAll (pattern replacement t : Text) : Text :=
  match pattern with
  | [] => t
  | first :: more => replaceFrom first more replacement 0 t

/-! ## Order -/

/-- The order of two texts by code points, a beginning before its extensions. -/
def compare : Text → Text → Ordering
  | [], [] => .eq
  | [], _ :: _ => .lt
  | _ :: _, [] => .gt
  | a :: as, b :: bs =>
    if a.toNat < b.toNat then .lt else if b.toNat < a.toNat then .gt else compare as bs

/-! ## ASCII letters -/

def asciiLower (t : Text) : Text := t.map Char.toLower

def sameAscii (a b : Text) : Bool := asciiLower a == asciiLower b

/-! ## Numbers -/

def ofNat (n : Nat) : Text := Nat.toDigits 10 n

def ofInt (n : Int) : Text :=
  match n with
  | .ofNat k => ofNat k
  | .negSucc k => '-' :: ofNat (k + 1)

def digitValue (c : Char) : Nat := c.toNat - '0'.toNat

def digitsValue (digits : Text) : Nat :=
  digits.foldl (fun total c => 10 * total + digitValue c) 0

def byteLength : Text → Nat
  | [] => 0
  | c :: rest => c.utf8Size + byteLength rest

end Text

end StyleCatalog
