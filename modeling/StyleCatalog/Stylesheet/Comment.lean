import StyleCatalog.Stylesheet.Dedent
import StyleCatalog.Text.Keyword

/-! # Comments of a stylesheet

A comment is recognised only where it starts a line, so a `//` inside a value or a note after a
declaration stays part of the code. `Comment.text` is what the author wrote, without the comment
marks.
-/

namespace StyleCatalog

/-- How a comment is marked: a run of `//` lines, or one pair of `/*` and `*/`. -/
inductive CommentStyle where
  | slashes
  | block
  deriving DecidableEq, Repr

/-- A comment with its lines as they stand in the file, line ends included. -/
structure Comment where
  style : CommentStyle
  lines : List Text
  deriving DecidableEq, Repr

namespace Comment

def source (comment : Comment) : Text := comment.lines.flatten

def afterOptional (mark : Char) : Text → Text
  | [] => []
  | c :: rest => if c = mark then rest else c :: rest

/-- The text of a `//` line: without its two or three slashes, one space after them, and the white
space around. -/
def slashText (line : Text) : Text :=
  let body := line.trimStart
  let body := ("//".toList.isPrefixOf? body).getD body
  (afterOptional ' ' (afterOptional '/' body)).trimEnd

/-- The inside of a block comment: after the opener and the stars glued to it, up to the closer. -/
def blockInside (raw : Text) : Text :=
  let afterOpener := ((Text.cutAt? "/*".toList raw).map Prod.snd).getD raw
  let inside := afterOpener.dropWhile (· = '*')
  ((Text.cutAt? "*/".toList inside).map Prod.fst).getD inside

/-- Whether a star runs down every line that is not blank. -/
def hasGutter (lines : List Text) : Bool :=
  (lines.filter fun line => !line.isBlankLine).all fun line =>
    Text.startsWith ['*'] line.trimStart

/-- A line without its gutter star and one space after that. -/
def withoutGutter (line : Text) : Text :=
  match line.trimStart with
  | '*' :: rest => (afterOptional ' ' rest).trimEnd
  | _ => line.trimEnd

/-- The lines inside a block comment. The gutter is looked for below the opener's line only. -/
def blockLines (raw : Text) : List Text :=
  match (blockInside raw).lines with
  | [] => [[]]
  | first :: rest =>
    first.trim ::
      if hasGutter rest then rest.map withoutGutter else rest.map Text.trimEnd

/-- What the author wrote: the comment without its marks and without shared indentation. -/
def text (comment : Comment) : Text :=
  Text.unlines <| dedent <|
    match comment.style with
    | .slashes => comment.lines.map slashText
    | .block => blockLines comment.source

end Comment

/-- Whether a comment text documents a section: some line of it starts with the word
`Styleguide`. -/
def declaresSection (text : Text) : Bool :=
  (text.splitAtChar '\n').any fun line =>
    (Text.afterWord? "styleguide".toList line.trimStart).isSome

end StyleCatalog
