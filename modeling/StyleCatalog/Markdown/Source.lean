import StyleCatalog.Markdown.Blank

/-! # The source of inline content

Inline content is read from the lines of a paragraph, a heading or a cell. Its text is what the
containers leave of these lines. What they take is kept beside it, since comments and declarations
are written as they stand in the document.
-/

namespace StyleCatalog.Markdown

structure Source where
  /-- The lines with the line ends between them, and without what containers take of them. -/
  text : Text
  /-- For each line end of the text, what containers take of the line after it. -/
  marks : List Text := []
  tail : Text := []
  /-- Whether this is a cell, whose bars are all written with a backslash before them. -/
  inTable : Bool := false
  deriving DecidableEq, Repr

def lineEnds : Text → Nat
  | [] => 0
  | '\r' :: '\n' :: rest => lineEnds rest + 1
  | c :: rest => if isLineEnd c then lineEnds rest + 1 else lineEnds rest

/-- A text with the marks put back after its line ends. -/
def withMarks : List Text → Text → Text
  | _, [] => []
  | marks, '\r' :: '\n' :: rest =>
    '\r' :: '\n' :: (marks.head?.getD [] ++ withMarks marks.tail rest)
  | marks, c :: rest =>
    if isLineEnd c then c :: (marks.head?.getD [] ++ withMarks marks.tail rest)
    else c :: withMarks marks rest

/-- The text after a number of characters of the same text with its marks. From within a mark the
text goes on at the first character of the line that is no blank. -/
def dropMarked : Nat → List Text → Text → Text
  | _, _, [] => []
  | 0, _, t => t
  | count + 1, marks, c :: rest =>
    let endsLine := isLineEnd c && !(c = '\r' && Text.startsWith ['\n'] rest)
    let mark := marks.head?.getD []
    if !endsLine then dropMarked count marks rest
    else if 0 < count && count ≤ mark.length then rest.dropWhile isIndent
    else dropMarked (count - mark.length) marks.tail rest

namespace Source

def marksIn (source : Source) (rest : Text) : List Text :=
  source.marks.drop (source.marks.length - lineEnds rest)

/-- A part of the text with the backslashes that a cell has before its bars. -/
def written (source : Source) (t : Text) : Text :=
  if source.inTable then t.flatMap fun c => if c = '|' then ['\\', '|'] else [c] else t

end Source

end StyleCatalog.Markdown
