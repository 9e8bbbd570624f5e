import StyleCatalog.Text.Basic

/-! # Blanks and line ends

What separates words and lines in a Markdown text. A line ends at a line feed, at a carriage return,
at both in this order, or where the text ends.
-/

namespace StyleCatalog.Markdown

def isIndent (c : Char) : Bool := c = ' ' || c = '\t'

def isLineBlank (c : Char) : Bool := isIndent c || c = '\x0b' || c = '\x0c'

def isLineEnd (c : Char) : Bool := c = '\n' || c = '\r'

def isGap (c : Char) : Bool := isLineBlank c || isLineEnd c

def lineOf (t : Text) : Text := t.takeWhile fun c => !isLineEnd c

def lineEnd? (t : Text) : Option (Text × Text) :=
  match t with
  | [] => some ([], [])
  | '\n' :: rest => some (['\n'], rest)
  | '\r' :: '\n' :: rest => some (['\r', '\n'], rest)
  | '\r' :: rest => some (['\r'], rest)
  | _ => none

def afterLineEnd? (t : Text) : Option Text := (lineEnd? t).map Prod.snd

def afterLine (t : Text) : Text := (afterLineEnd? (t.drop (lineOf t).length)).getD []

def afterLines : Nat → Text → Text
  | 0, t => t
  | count + 1, t => afterLines count (afterLine t)

/-- What follows the first line of a text, if that line is blank. -/
def afterBlankLine? (t : Text) : Option Text := afterLineEnd? (t.dropWhile isLineBlank)

def startsBlank (t : Text) : Bool := (afterBlankLine? t).isSome

def atLineEnd (t : Text) : Bool := (lineEnd? t).isSome

end StyleCatalog.Markdown
