import StyleCatalog.Markdown.InlineReader
import StyleCatalog.Markdown.OutlineReader

/-! # Documents

A document is the outline with its inline content read.
-/

namespace StyleCatalog.Markdown

def Marker.start? : Marker → Option Nat
  | .bullet _ => none
  | .ordered _ start => some start

/-- The language of a block of code: the first word of its information. -/
def languageOf (info : Text) : Text := info.takeWhile (· ≠ ' ')

def readCell (definitions : List Definition) (cell : Text) : List Inline :=
  readInline definitions ⟨cell, [], [], true⟩

mutual

def readBlock (definitions : List Definition) : Outline → Block
  | .paragraph source => .paragraph (readInline definitions source)
  | .heading level source => .heading level (readInline definitions source)
  | .rule => .rule
  | .code info contents => .code (languageOf info) contents
  | .html contents => .html contents
  | .table alignments head rows =>
    .table alignments (head.map (readCell definitions))
      (rows.map fun row => row.map (readCell definitions))
  | .quote children => .quote (readBlocks definitions children)
  | .list marker tight items => .list marker.start? tight (readItems definitions items)

def readBlocks (definitions : List Definition) : List Outline → List Block
  | [] => []
  | block :: rest => readBlock definitions block :: readBlocks definitions rest

def readItems (definitions : List Definition) : List (List Outline) → List (List Block)
  | [] => []
  | item :: rest => readBlocks definitions item :: readItems definitions rest

end

def readDocument (t : Text) : List Block :=
  let outline := readOutline t
  readBlocks outline.2 outline.1

end StyleCatalog.Markdown
