import StyleCatalog.Text.Keyword

/-! # Paragraphs of a comment

A comment is read paragraph by paragraph. The first line of a paragraph decides what it declares:
a reference, markup, a weight, modifiers, or prose.
-/

namespace StyleCatalog

/-- A run of lines that are not blank, without trailing white space. -/
abbrev Paragraph := List Text

namespace Paragraph

def finish (current : Paragraph) : List Paragraph :=
  if current.isEmpty then [] else [current]

/-- Collect lines into paragraphs, `current` being the one collected so far. -/
def collect (current : Paragraph) : List Text → List Paragraph
  | [] => finish current
  | line :: rest =>
    if line.isBlankLine then finish current ++ collect [] rest
    else collect (current ++ [line.trimEnd]) rest

def ofText (t : Text) : List Paragraph := collect [] t.lines

def text (paragraph : Paragraph) : Text := Text.unlines paragraph

/-! ## What a line declares -/

/-- The reference that a `Styleguide` line names: without full stops at its end. It may turn out
empty. -/
def reference? (line : Text) : Option Text :=
  (Text.afterWord? "styleguide".toList line.trimStart).map fun rest =>
    let named := Text.trim (match rest with
      | ':' :: more => more
      | _ => rest)
    Text.trim (named.dropEndWhile (· = '.'))

def markup? (line : Text) : Option Text :=
  (Text.afterKeyword? "markup:".toList line.trimStart).map Text.trimStart

def weight? (line : Text) : Option Text :=
  (Text.afterKeyword? "weight:".toList line.trimStart).map Text.trim

/-- The description that follows a modifier's name: after a dash with white space on both sides. -/
def dashed? (t : Text) : Option Text :=
  match t with
  | [] => none
  | gap :: _ =>
    if isBlank gap then
      match t.trimStart with
      | '-' :: after :: rest => if isBlank after then some (Text.trimStart rest) else none
      | _ => none
    else none

/-- The name and description on a modifier line such as `.large - Bigger`. The name starts with a
full stop or a colon and goes on to the next white space. -/
def modifier? (line : Text) : Option (Text × Text) :=
  match line.trimStart with
  | [] => none
  | mark :: rest =>
    if mark = '.' || mark = ':' then
      let stem := rest.takeWhile fun c => !isBlank c
      if stem.isEmpty then none
      else (dashed? (rest.dropWhile fun c => !isBlank c)).map fun described =>
        (mark :: stem, described)
    else none

end Paragraph

inductive Flag where
  | deprecated
  | experimental
  deriving DecidableEq, Repr

/-- The flag word that starts a text, and the text after it. -/
def Flag.read? (t : Text) : Option (Flag × Text) :=
  let body := t.trimStart
  match Text.afterKeyword? "deprecated:".toList body with
  | some rest => some (.deprecated, rest.trimStart)
  | none =>
    (Text.afterKeyword? "experimental:".toList body).map fun rest =>
      (.experimental, rest.trimStart)

end StyleCatalog
