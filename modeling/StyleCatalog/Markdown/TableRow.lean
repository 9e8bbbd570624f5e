import StyleCatalog.Markdown.Basic
import StyleCatalog.Markdown.Blank

/-! # Rows of a table

A table is a row of headings, a row that gives the alignments, and rows of cells. Each function
takes a row as one line of text.
-/

namespace StyleCatalog.Markdown

/-! ## Cells -/

/-- The pieces of a row between its bars. A bar right after a backslash is part of its piece, and
that backslash is dropped. -/
def splitCells : Text → List Text
  | [] => [[]]
  | '|' :: rest => [] :: splitCells rest
  | '\\' :: '|' :: rest =>
    match splitCells rest with
    | [] => [['|']]
    | cell :: cells => ('|' :: cell) :: cells
  | c :: rest =>
    match splitCells rest with
    | [] => [[c]]
    | cell :: cells => (c :: cell) :: cells

def trimCell (t : Text) : Text := Text.dropEndWhile isLineBlank (t.dropWhile isLineBlank)

/-- The cells of a row. A bar at either end of the row is only a border. -/
def rowCells (row : Text) : List Text :=
  let row := row.dropWhile isLineBlank
  let inner := (splitCells row).map trimCell
  let inner := if Text.startsWith ['|'] row then inner.drop 1 else inner
  if inner.getLast? = some [] then inner.dropLast else inner

def hasBar (row : Text) : Bool := 1 < (splitCells row).length

def fitRow (columns : Nat) (cells : List Text) : List Text :=
  cells.take columns ++ List.replicate (columns - cells.length) []

/-! ## Headings and alignments -/

/-- Whether a line ends in a backslash that no other escapes. -/
def endsInBackslash (line : Text) : Bool := (line.reverse.takeWhile (· = '\\')).length % 2 = 1

/-- The alignment of a column after a colon. Only one at the start of the column aligns to the
left. -/
def Alignment.withColon (alignment : Alignment) (atStart : Bool) : Alignment :=
  match atStart, alignment with
  | true, .none => .left
  | false, .left => .center
  | false, .none => .right
  | _, other => other

/-- The alignments of the columns in the rest of an alignment row. `atStart` says that the column
has no mark yet, and `dashed` that it has a dash. A bar ends a column with a dash only. -/
def readAlignments (alignment : Alignment) (atStart dashed : Bool) :
    Text → Option (List Alignment)
  | [] => some (if atStart then [] else [alignment])
  | c :: rest =>
    if c = ' ' then readAlignments alignment atStart dashed rest
    else if c = ':' then readAlignments (alignment.withColon atStart) false dashed rest
    else if c = '-' then readAlignments alignment false true rest
    else if c = '|' && dashed then
      (readAlignments .none true false rest).map fun others => alignment :: others
    else none

/-- The alignments that a row gives: it is indented by at most three spaces and has at least one bar
and one dash. -/
def alignments? (row : Text) : Option (List Alignment) :=
  let inner := row.dropWhile (· = ' ')
  if 3 < row.length - inner.length || !row.contains '|' || !row.contains '-' then none
  else
    match inner with
    | '|' :: rest => readAlignments .none true false rest
    | _ => readAlignments .none true false inner

end StyleCatalog.Markdown
