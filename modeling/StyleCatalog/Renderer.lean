import StyleCatalog.Markdown.Document
import StyleCatalog.Markdown.Html

/-! # Rendering texts

Headers and descriptions are rendered to HTML, from Markdown or as plain text. Everything that
builds sections takes the renderer as a function, so that no structure depends on it.
-/

namespace StyleCatalog

/-- Turns a text into HTML; the truth value says that the text is part of a line. -/
abbrev Renderer := Text → Bool → Text

namespace Renderer

/-- A fragment without the tags of the paragraph it consists of. The fragment is taken to be one
paragraph if it starts and ends like one and no other starts in it. -/
def withoutParagraph (html : Text) : Text :=
  match Text.dropPrefix? "<p>".toList html with
  | none => html
  | some rest =>
    match Text.dropPrefix? "</p>".toList.reverse rest.reverse with
    | none => html
    | some inner =>
      if Text.hasInfix "<p>".toList inner.reverse then html else inner.reverse

def markdown : Renderer := fun t inline =>
  let html := Text.trim (Markdown.documentHtml (Markdown.readDocument t))
  if inline then withoutParagraph html else html

def plain : Renderer := fun t _ => Markdown.escapeBody t.trim

end Renderer

end StyleCatalog
