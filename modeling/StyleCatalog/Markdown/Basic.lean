import StyleCatalog.Text.Basic

/-! # Markdown documents

The tree of a Markdown document: blocks that hold other blocks or inline content. The reading of a
text into such a tree and the writing of a tree as HTML are separate modules.
-/

namespace StyleCatalog.Markdown

inductive Inline where
  | text (t : Text)
  | code (t : Text)
  | html (t : Text)
  | softBreak
  | hardBreak
  | emphasis (content : List Inline)
  | strong (content : List Inline)
  | strikethrough (content : List Inline)
  | link (destination title : Text) (content : List Inline)
  | image (destination title : Text) (content : List Inline)
  deriving Inhabited

inductive Alignment where
  | none
  | left
  | center
  | right
  deriving DecidableEq, Repr, Inhabited

inductive Block where
  | paragraph (content : List Inline)
  | heading (level : Nat) (content : List Inline)
  | rule
  /-- A block of code; `language` is the first word of the fence's line. -/
  | code (language : Text) (contents : Text)
  | html (contents : Text)
  | quote (children : List Block)
  /-- A list. `start` is the number of the first item of an ordered list. In a tight list the
  paragraphs of the items are written without tags. -/
  | list (start : Option Nat) (tight : Bool) (items : List (List Block))
  | table (alignments : List Alignment) (head : List (List Inline))
      (rows : List (List (List Inline)))
  deriving Inhabited

structure Definition where
  label : Text
  destination : Text
  title : Text
  deriving DecidableEq, Repr

end StyleCatalog.Markdown
