import StyleCatalog.Markdown.Interruption
import StyleCatalog.Markdown.Link
import StyleCatalog.Markdown.Outline
import StyleCatalog.Markdown.Verbatim

/-! # Reading the outline

A document is read block by block. The open containers take their part of a line, new containers
open, and the block that the rest of the line starts takes as many lines as belong to it.
-/

namespace StyleCatalog.Markdown

/-! ## Paragraphs -/

/-- A paragraph, or the heading that an underline makes of it. -/
structure Prose where
  source : Source
  level : Option Nat := none

/-- Put a line before the lines of a paragraph, given with what stands between them: the line end,
what containers take, and the indentation. -/
def Prose.cons (line ending mark indent : Text) (prose : Prose) : Prose :=
  { prose with
    source := { prose.source with
      text := line ++ ending ++ indent ++ prose.source.text
      marks := mark :: prose.source.marks } }

/-- Read a paragraph from the first character of a line. The counter bounds the number of lines. -/
def readProse (containers : List Container) : Nat → Text → Prose × Text
  | 0, t => (⟨⟨[], [], [], false⟩, none⟩, t)
  | steps + 1, t =>
    let line := lineOf t
    let (ending, next) := (lineEnd? (t.drop line.length)).getD ([], [])
    let entry := enterLine containers next
    let start := entry.cursor.rest.dropWhile isIndent
    let last : Source := ⟨Text.dropEndWhile isLineBlank line, [], [], false⟩
    let heading := if entry.all && entry.cursor.indent < 4 then underline? start else none
    match heading with
    | some (level, rest) => (⟨last, some level⟩, rest)
    | none =>
      let ends :=
        if entry.cursor.indent < 4 then interrupts containers entry.all start
        else atLineEnd start
      if ends then (⟨last, none⟩, next)
      else
        let more := readProse containers steps start
        let mark := next.take (next.length - entry.cursor.rest.length)
        let indent := entry.cursor.rest.takeWhile isIndent
        (more.1.cons line ending mark indent, more.2)

/-- Read the rows of a table. A row without cells, or a line that starts another block however far
it is indented, ends the table. The counter bounds the number of rows. -/
def readRows (containers : List Container) (columns : Nat) : Nat → Text → List (List Text) × Text
  | 0, t => ([], t)
  | steps + 1, t =>
    let entry := enterLine containers t
    let start := entry.cursor.rest.dropWhile isIndent
    let cells := rowCells (lineOf start)
    if !entry.all || startsBlock true true start || cells.isEmpty then ([], t)
    else
      let more := readRows containers columns steps (afterLine start)
      (fitRow columns cells :: more.1, more.2)

namespace Draft

def takeProse (draft : Draft) (t : Text) : Draft × Text :=
  let containers := draft.containers
  let table := if endsInBackslash (lineOf t) then none else tableStart? containers t
  match table with
  | some (head, alignments, rest) =>
    let columns := alignments.length
    let rows := readRows containers columns (rest.length + 1) rest
    (draft.add (.table alignments (fitRow columns (rowCells head)) rows.1), rows.2)
  | none =>
    let prose := readProse containers (t.length + 1) t
    match prose.1.level with
    | some level => (draft.add (.heading level prose.1.source), prose.2)
    | none => (draft.add (.paragraph prose.1.source), prose.2)

/-- Read the link definitions that a text begins, and the paragraph or table after them. The line
after a definition goes on with it like with a paragraph. The counter bounds the definitions. -/
def takeDefinitions : Nat → Draft → Text → Draft × Text
  | 0, draft, t => (draft, t)
  | steps + 1, draft, t =>
    let containers := draft.containers
    let ahead := if Text.startsWith ['['] t then linesAhead containers (t.length + 1) t else []
    match definition? ahead with
    | none => draft.takeProse t
    | some (definition, remaining) =>
      let defined := { draft with definitions := draft.definitions ++ [definition] }
      let rest := afterLines (ahead.count '\n' - remaining.count '\n' + 1) t
      let entry := enterLine containers rest
      let start := entry.cursor.rest.dropWhile isIndent
      if entry.cursor.indent < 4 && interrupts containers entry.all start then (defined, rest)
      else takeDefinitions steps defined start

/-! ## Leaves -/

/-- Read the block of HTML, the rule, the heading, the block of code or the paragraph that a text
begins. The text is indented by less than four columns. -/
def takeLeaf (draft : Draft) (indent : Nat) (t : Text) : Draft × Text :=
  let containers := draft.containers
  match htmlEnd? false t with
  | some stop =>
    let html := readHtml containers stop (t.length + 1) (List.replicate indent ' ') t
    (draft.add (.html html.1.flatten), html.2)
  | none =>
    if isRule t then (draft.add .rule, afterLine t)
    else
      match heading? t with
      | some (level, (text, tail), rest) =>
        (draft.add (.heading level ⟨text, [], tail, false⟩), rest)
      | none =>
        match fence? t with
        | some (fence, rest) =>
          let code := readFenced containers fence indent (rest.length + 1) rest
          let info := unescape (fence.info.filter (· ≠ '\r'))
          (draft.add (.code info code.1.flatten), code.2)
        | none => draft.takeDefinitions (t.length + 1) t

def takeRest (draft : Draft) (cursor : Cursor) : Draft × Text :=
  match afterBlankLine? cursor.rest with
  | some rest => (draft.takeBlank, rest)
  | none =>
    let started := draft.startBlock
    if 4 ≤ cursor.indent then
      let start := cursor.skip 4
      let code := readIndented started.containers (start.rest.length + 1) false start
      let blank := (code.1.getLast?.map Prod.fst).getD false
      ({ started.add (.code [] (indentedContents code.1)) with afterBlank := blank }, code.2)
    else started.takeLeaf cursor.indent cursor.skipIndent.rest

/-! ## Containers -/

/-- Open the containers that the rest of a line begins, and read the block after them. The counter
bounds the containers by the length of the line. -/
def takeContainers : Nat → Draft → Cursor → Draft × Text
  | 0, draft, cursor => (draft, cursor.rest)
  | steps + 1, draft, cursor =>
    let start := cursor.skipIndent
    let item := if isRule start.rest then none else marker? start.rest
    if 4 ≤ cursor.indent then draft.takeRest cursor
    else
      match item with
      | some (marker, width) =>
        let after := start.advance width
        let begun := cursor.indent + width
        match afterBlankLine? after.rest with
        | some rest => ({ draft.openItem marker (begun + 1) with freshItem := true }, rest)
        | none =>
          let inner := if after.indent < 5 then after.indent else 1
          takeContainers steps (draft.openItem marker (begun + inner)) (after.skip inner)
      | none =>
        match start.rest with
        | '>' :: _ => takeContainers steps draft.openQuote ((start.advance 1).skip 1)
        | _ => draft.takeRest cursor

def takeBlock (draft : Draft) (t : Text) : Draft × Text :=
  let taken := Markdown.takeContainers draft.containers { rest := t }
  takeContainers (t.length + 1) (draft.closeTo taken.1) taken.2

def takeText : Nat → Draft → Text → Draft
  | 0, draft, _ => draft
  | _ + 1, draft, [] => draft
  | steps + 1, draft, t =>
    let taken := draft.takeBlock t
    takeText steps taken.1 taken.2

end Draft

def readOutline (t : Text) : List Outline × List Definition :=
  let draft := Draft.takeText (t.length + 1) {} t
  (draft.toList, draft.definitions)

end StyleCatalog.Markdown
