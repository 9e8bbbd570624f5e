import StyleCatalog.Stylesheet.Comment

/-! # Documentation blocks of a stylesheet

A stylesheet is cut into comments and lines of code. Each comment that documents a section opens a
block; the code below it, up to the next such comment, belongs to it. A comment that documents
nothing is part of the surrounding code.
-/

namespace StyleCatalog

inductive Piece where
  | comment (written : Comment)
  | code (line : Text)
  deriving DecidableEq, Repr

namespace Piece

def source : Piece → Text
  | .comment written => written.source
  | .code line => line

/-- Cut the lines of a stylesheet, which follow the open comment if there is one, into pieces.
`slashes` says whether `//` marks a comment. A comment that the file leaves open ends with the
file. -/
def cut (slashes : Bool) : Option Comment → List Text → List Piece
  | opened, [] => opened.toList.map .comment
  | some ⟨.block, lines⟩, line :: rest =>
    if Text.hasInfix "*/".toList line then
      .comment ⟨.block, lines ++ [line]⟩ :: cut slashes none rest
    else cut slashes (some ⟨.block, lines ++ [line]⟩) rest
  | opened, line :: rest =>
    let body := line.trimStart
    if slashes && Text.startsWith "//".toList body then
      let lines := (opened.map Comment.lines).getD []
      cut slashes (some ⟨.slashes, lines ++ [line]⟩) rest
    else
      opened.toList.map .comment ++
        match Text.dropPrefix? "/*".toList body with
        | some inside =>
          if Text.hasInfix "*/".toList inside then
            .comment ⟨.block, [line]⟩ :: cut slashes none rest
          else cut slashes (some ⟨.block, [line]⟩) rest
        | none => .code line :: cut slashes none rest

end Piece

structure Block where
  comment : Text
  /-- The source between this comment and the next one that documents a section; absent when it
  is blank. -/
  code : Option Text
  deriving DecidableEq, Repr

namespace Block

def close (comment code : Text) : Block :=
  ⟨comment, if code.isBlankLine then none else some code⟩

/-- Gather pieces into blocks. The open block, if there is one, is its comment and the code seen
so far. -/
def gather : Option (Text × Text) → List Piece → List Block
  | opened, [] => (opened.map fun block => close block.1 block.2).toList
  | opened, .code line :: rest =>
    gather (opened.map fun block => (block.1, block.2 ++ line)) rest
  | opened, .comment written :: rest =>
    if declaresSection written.text then
      (opened.map fun block => close block.1 block.2).toList ++
        gather (some (written.text, [])) rest
    else
      gather (opened.map fun block => (block.1, block.2 ++ written.source)) rest

end Block

/-- Whether the dialect with this name has `//` comments: all but plain CSS do. -/
def hasSlashComments (dialect : Text) : Bool := !Text.sameAscii dialect "css".toList

def blocksOf (contents dialect : Text) : List Block :=
  Block.gather none (Piece.cut (hasSlashComments dialect) none contents.lineRuns)

end StyleCatalog
