import StyleCatalog.Markdown.Blank

/-! # Containers

Quotes and list items hold other blocks. Each takes a part of every line that belongs to it: a quote
its mark, an item the indentation of its content. Indentation is measured in columns, a tab reaching
to the next multiple of four; a cursor can stand inside a tab.
-/

namespace StyleCatalog.Markdown

structure Cursor where
  column : Nat := 0
  /-- The columns left of a tab that the cursor stands in. -/
  pad : Nat := 0
  rest : Text
  deriving DecidableEq, Repr

/-- The columns that leading blanks take up from a column on. -/
def blankWidth (column : Nat) : Text → Nat
  | ' ' :: rest => 1 + blankWidth (column + 1) rest
  | '\t' :: rest => (4 - column % 4) + blankWidth (column + (4 - column % 4)) rest
  | _ => 0

namespace Cursor

def indent (cursor : Cursor) : Nat :=
  cursor.pad + blankWidth (cursor.column + cursor.pad) cursor.rest

def skipOne (cursor : Cursor) : Cursor :=
  match cursor.pad with
  | left + 1 => { cursor with column := cursor.column + 1, pad := left }
  | 0 =>
    match cursor.rest with
    | ' ' :: rest => { cursor with column := cursor.column + 1, rest := rest }
    | '\t' :: rest => ⟨cursor.column + 1, 3 - cursor.column % 4, rest⟩
    | _ => cursor

def skip (cursor : Cursor) : Nat → Cursor
  | 0 => cursor
  | count + 1 => cursor.skipOne.skip count

def skipIndent (cursor : Cursor) : Cursor := cursor.skip cursor.indent

def advance (cursor : Cursor) (count : Nat) : Cursor :=
  { cursor with column := cursor.column + count, rest := cursor.rest.drop count }

def padding (cursor : Cursor) : Text := List.replicate cursor.pad ' '

end Cursor

/-- A block that holds blocks. An item takes the lines indented at least as far as its content. -/
inductive Container where
  | quote
  | item (indent : Nat)
  deriving DecidableEq, Repr

/-- Let a container take its part of a line. A quote's mark may be indented by three columns, and by
a tab that begins within them. An item takes a line that ends before its content as well. -/
def Container.take? (container : Container) (cursor : Cursor) : Option Cursor :=
  match container with
  | .quote =>
    let mark := cursor.skip 3
    match mark.rest with
    | '>' :: _ => some ((mark.advance 1).skip 1)
    | _ => none
  | .item indent =>
    let inner := cursor.skip indent
    if indent ≤ cursor.indent || atLineEnd inner.rest then some inner else none

/-- Let containers, outermost first, take their part of a line: how many do, and the rest of the
line. -/
def takeContainers : List Container → Cursor → Nat × Cursor
  | [], cursor => (0, cursor)
  | container :: inner, cursor =>
    match container.take? cursor with
    | none => (0, cursor)
    | some after =>
      let taken := takeContainers inner after
      (taken.1 + 1, taken.2)

/-- The place in a line after the parts that containers take. -/
structure Entry where
  all : Bool
  cursor : Cursor

def enterLine (containers : List Container) (t : Text) : Entry :=
  let taken := takeContainers containers { rest := t }
  ⟨taken.1 = containers.length, taken.2⟩

end StyleCatalog.Markdown
