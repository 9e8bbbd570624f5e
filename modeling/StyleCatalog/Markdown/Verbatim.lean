import StyleCatalog.Markdown.Container
import StyleCatalog.Markdown.Line
import StyleCatalog.Markdown.Tag

/-! # Blocks kept as they are written

Blocks of code and of HTML take their lines as they are. Each reader goes on as long as all
containers take their part of the next line, and gives the lines and what follows. The counters
bound the number of lines by the length of the text.
-/

namespace StyleCatalog.Markdown

/-- The lines of indented code from a place after the indentation, each with whether it is blank. -/
def readIndented (containers : List Container) :
    Nat → Bool → Cursor → List (Bool × Text) × Text
  | 0, _, cursor => ([], cursor.rest)
  | steps + 1, blank, cursor =>
    let cut := cutLine cursor.rest
    let line := (blank, cursor.padding ++ verbatim cut.1)
    let entry := enterLine containers cut.2
    let next := entry.cursor.skip 4
    if entry.all && (4 ≤ entry.cursor.indent || atLineEnd next.rest) && !next.rest.isEmpty then
      let more := readIndented containers steps (startsBlank next.rest) next
      (line :: more.1, more.2)
    else ([line], cut.2)

/-- The contents of indented code: blank lines at its end are no part of it. -/
def indentedContents (lines : List (Bool × Text)) : Text :=
  ((lines.reverse.dropWhile Prod.fst).reverse.map Prod.snd).flatten

/-- The lines of code after a fence that is indented by a number of columns. Its lines lose as much
indentation, and the closing fence may be indented by three columns. -/
def readFenced (containers : List Container) (fence : Fence) (indent : Nat) :
    Nat → Text → List Text × Text
  | 0, t => ([], t)
  | steps + 1, t =>
    let entry := enterLine containers t
    let start := entry.cursor.skip indent
    let closing :=
      if start.indent < 4 - indent then fence.afterClosing? start.skipIndent.rest else none
    if !entry.all then ([], t)
    else
      match closing with
      | some after => ([], (afterBlankLine? after).getD after)
      | none =>
        let cut := cutLine start.rest
        let more := readFenced containers fence indent steps cut.2
        ((start.padding ++ verbatim cut.1) :: more.1, more.2)

def HtmlEnd.endsWith (line : Text) (next : Cursor) : HtmlEnd → Bool
  | .marker wanted => Text.hasInfix wanted line || next.rest.isEmpty
  | .blankLine => startsBlank next.rest

/-- The lines of a block of HTML. `indent` is the indentation of the first as spaces. -/
def readHtml (containers : List Container) (stop : HtmlEnd) :
    Nat → Text → Text → List Text × Text
  | 0, _, t => ([], t)
  | steps + 1, indent, t =>
    let cut := cutLine t
    let line := indent ++ verbatim cut.1
    let entry := enterLine containers cut.2
    if !entry.all || stop.endsWith cut.1 entry.cursor then ([line], cut.2)
    else
      let more := readHtml containers stop steps entry.cursor.padding entry.cursor.rest
      (line :: more.1, more.2)

end StyleCatalog.Markdown
