import StyleCatalog.Markdown.Container
import StyleCatalog.Markdown.Line
import StyleCatalog.Markdown.TableRow
import StyleCatalog.Markdown.Tag

/-! # Where a paragraph ends

A paragraph goes on with every line that starts no other block, even one that its containers do not
take. This module says which lines start a block, and finds tables and the lines ahead of a place.
-/

namespace StyleCatalog.Markdown

/-- Whether the text from the first character of a line that is no blank starts a block, or has
ended. Where all containers go on, a list item interrupts a paragraph only if it has content and
starts at one; it always ends a table. -/
def startsBlock (inTable continued : Bool) (t : Text) : Bool :=
  let startsItem : Bool :=
    match marker? t with
    | none => false
    | some (marker, width) =>
      !continued || inTable || (marker.mayInterrupt && !startsBlank (t.drop width))
  atLineEnd t || isRule t || (heading? t).isSome || (fence? t).isSome ||
    Text.startsWith ['>'] t || startsItem || (htmlEnd? true t).isSome

def headingColumns (row : Text) : Nat := (rowCells row).length

/-- The table that a text begins: the row of headings, the alignments, and what follows their row.
The rows have equally many columns, and the containers take their part of the second. -/
def tableStart? (containers : List Container) (t : Text) :
    Option (Text × List Alignment × Text) :=
  let row := lineOf t
  let entry := enterLine containers (afterLine t)
  match alignments? (lineOf entry.cursor.rest) with
  | none => none
  | some alignments =>
    if hasBar row && entry.all && headingColumns row = alignments.length then
      some (row, alignments, afterLine entry.cursor.rest)
    else none

/-- Whether a line ends the paragraph above it. A table does so if its first line starts with a
bar. -/
def interrupts (containers : List Container) (continued : Bool) (t : Text) : Bool :=
  startsBlock false continued t ||
    (Text.startsWith ['|'] t && (tableStart? containers t).isSome)

/-- The lines ahead that could go on with a paragraph, joined by line feeds, without up to four
columns of their indentation. What looks like the underline of a heading ends them, too. The counter
bounds the number of lines. -/
def linesAhead (containers : List Container) : Nat → Text → Text
  | 0, _ => []
  | steps + 1, t =>
    let entry := enterLine containers (afterLine t)
    let next := (entry.cursor.skip 4).rest
    if entry.cursor.indent < 4 &&
        (interrupts containers entry.all next || (underline? next).isSome) then lineOf t
    else lineOf t ++ '\n' :: linesAhead containers steps next

end StyleCatalog.Markdown
