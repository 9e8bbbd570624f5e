import StyleCatalog.Section.Basic
import StyleCatalog.Text.Lower

/-! # References

A reference places a section in the hierarchy. Authors write it as text (`Forms - Buttons`), as a
number (`2.1`), or as a mix of both. Letter case does not matter, and a dash between blanks is
another way to write a full stop.
-/

namespace StyleCatalog

abbrev Chunk := Text

namespace Reference

def dash : Text := " - ".toList

/-- The reference in lower case, with full stops as its only separators. -/
def normalize (reference : Text) : Text := Text.replaceAll dash ['.'] reference.lower

/-- The steps of a reference, from the top of the hierarchy down. -/
def chunks (reference : Text) : List Chunk := (normalize reference).splitAtChar '.'

def join (steps : List Chunk) : Text := List.intercalate ['.'] steps

end Reference

def Section.chunks (s : Section) : List Chunk := Reference.chunks s.reference

end StyleCatalog
