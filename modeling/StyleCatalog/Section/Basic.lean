import StyleCatalog.Section.Extras
import StyleCatalog.Weight

/-! # Sections

A section documents one component of a stylesheet. Its fields are rendered; its modifiers are
variants of its markup.
-/

namespace StyleCatalog

/-- A named variant of a section's markup, such as `:hover` or `.disabled`. -/
structure Modifier where
  /-- The position within the section, counted from one. -/
  id : UInt64
  name : Text
  description : Text
  className : Text
  markup : Option Text
  deriving DecidableEq

namespace Modifier

/-- The class list that a modifier name stands for: `.primary.large` gives `primary large`, and
`:hover` gives `pseudo-class-hover`. -/
def classNameOf (name : Text) : Text :=
  Text.trim <|
    Text.replaceAll [':'] " pseudo-class-".toList (Text.replaceAll ['.'] [' '] name)

def placeholder : Text := "\x7b$modifiers\x7d".toList

def fillMarkup (sectionMarkup : Option Text) (className : Text) : Option Text :=
  sectionMarkup.map (Text.replaceAll placeholder className)

end Modifier

structure Section where
  header : Text := []
  description : Text := []
  modifiers : List Modifier := []
  deprecated : Bool := false
  experimental : Bool := false
  /-- The reference as written, or the number given to it. -/
  reference : Text := []
  /-- The reference as written, once a number has taken its place. -/
  stringReference : Option Text := none
  weight : Weight := .zero
  markup : Option Text := none
  css : Option Text := none
  file : Text := []
  /-- The stylesheet language, as the lower-case extension of the file. -/
  dialect : Text := []
  extras : Extras := .empty
  deriving DecidableEq

instance : Inhabited Section := ⟨{}⟩

/-- Whether a reference is a number given by hand, such as `2.1` or `4-3`: it holds only digits,
full stops and dashes. -/
def isNumericReference (reference : Text) : Bool :=
  reference.all fun c => c.isDigit || c = '.' || c = '-'

/-- Whether numbering leaves a section's reference as it is. -/
def Section.hasNumericReference (s : Section) : Bool := isNumericReference s.reference

end StyleCatalog
