import StyleCatalog.Text.Basic

/-! # Shared indentation

The lines of a comment are moved to the left by the indentation that all of them share. The shared
indentation is measured in bytes; a line on which that many bytes end inside a character loses all
of its indentation instead.
-/

namespace StyleCatalog

/-- Drop exactly `count` bytes from the start of a text, if they end between two characters. -/
def Text.dropBytes? : Nat → Text → Option Text
  | 0, t => some t
  | _ + 1, [] => none
  | count + 1, c :: rest =>
    if c.utf8Size ≤ count + 1 then Text.dropBytes? (count + 1 - c.utf8Size) rest else none
  termination_by structural _ t => t

def indentOf (line : Text) : Nat := Text.byteLength (line.takeWhile isBlank)

/-- The lines from the first to the last one that is not blank. -/
def withoutOuterBlanks (lines : List Text) : List Text :=
  ((lines.dropWhile Text.isBlankLine).reverse.dropWhile Text.isBlankLine).reverse

def sharedIndent (lines : List Text) : Nat :=
  ((lines.filter fun line => !line.isBlankLine).map indentOf).min?.getD 0

/-- A line moved to the left by `indent` bytes; a blank line becomes empty. -/
def outdentLine (indent : Nat) (line : Text) : Text :=
  if line.isBlankLine then [] else (line.dropBytes? indent).getD line.trimStart

/-- Drop the surrounding blank lines and the indentation that every line shares. -/
def dedent (lines : List Text) : List Text :=
  let kept := withoutOuterBlanks lines
  kept.map (outdentLine (sharedIndent kept))

end StyleCatalog
