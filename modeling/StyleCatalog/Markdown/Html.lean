import StyleCatalog.Markdown.Basic
import StyleCatalog.Markdown.Escape

/-! # Writing HTML

Inline content is written on its own. Blocks are written one after the other onto a page, because
whether a block begins with a line end depends on what was written before it.
-/

namespace StyleCatalog.Markdown

/-! ## Inline content -/

mutual

def plainText : Inline → Text
  | .text t => escapeAttribute t
  | .code t => escapeAttribute t
  | .html t => escapeAttribute t
  | .softBreak => [' ']
  | .hardBreak => [' ']
  | .emphasis content => plainTexts content
  | .strong content => plainTexts content
  | .strikethrough content => plainTexts content
  | .link _ _ content => plainTexts content
  | .image _ _ content => plainTexts content

def plainTexts : List Inline → Text
  | [] => []
  | first :: rest => plainText first ++ plainTexts rest

end

def titleAttribute (title : Text) : Text :=
  if title.isEmpty then [] else " title=\"".toList ++ escapeAttribute title ++ ['"']

mutual

def inlineHtml : Inline → Text
  | .text t => escapeBody t
  | .code t => "<code>".toList ++ escapeBody t ++ "</code>".toList
  | .html t => t
  | .softBreak => ['\n']
  | .hardBreak => "<br />\n".toList
  | .emphasis content => "<em>".toList ++ inlinesHtml content ++ "</em>".toList
  | .strong content => "<strong>".toList ++ inlinesHtml content ++ "</strong>".toList
  | .strikethrough content => "<del>".toList ++ inlinesHtml content ++ "</del>".toList
  | .link destination title content =>
    "<a href=\"".toList ++ escapeAddress destination ++ ['"'] ++ titleAttribute title ++ ['>'] ++
      inlinesHtml content ++ "</a>".toList
  | .image destination title content =>
    "<img src=\"".toList ++ escapeAddress destination ++ "\" alt=\"".toList ++
      plainTexts content ++ ['"'] ++ titleAttribute title ++ " />".toList

def inlinesHtml : List Inline → Text
  | [] => []
  | first :: rest => inlineHtml first ++ inlinesHtml rest

end

/-! ## Pages -/

/-- What has been written, last character first. -/
structure Page where
  written : Text := []

namespace Page

def put (page : Page) (t : Text) : Page := ⟨t.reverse ++ page.written⟩

def freshLine (page : Page) : Page :=
  match page.written with
  | [] => page
  | '\n' :: _ => page
  | _ => page.put ['\n']

def text (page : Page) : Text := page.written.reverse

end Page

/-! ## Blocks -/

def Alignment.attribute : Alignment → Text
  | .none => []
  | .left => " style=\"text-align: left\"".toList
  | .center => " style=\"text-align: center\"".toList
  | .right => " style=\"text-align: right\"".toList

def cellsHtml (element : Text) : List Alignment → List (List Inline) → Text
  | _, [] => []
  | alignments, cell :: rest =>
    '<' :: element ++ (alignments.head?.getD .none).attribute ++ ['>'] ++ inlinesHtml cell ++
      "</".toList ++ element ++ ['>'] ++ cellsHtml element alignments.tail rest

def tableHtml (alignments : List Alignment) (head : List (List Inline))
    (rows : List (List (List Inline))) : Text :=
  "<table><thead><tr>".toList ++ cellsHtml "th".toList alignments head ++
    "</tr></thead><tbody>\n".toList ++
    (rows.flatMap fun row =>
      "<tr>".toList ++ cellsHtml "td".toList alignments row ++ "</tr>\n".toList) ++
    "</tbody></table>\n".toList

def listTag : Option Nat → Text
  | none => "<ul>\n".toList
  | some 1 => "<ol>\n".toList
  | some start => "<ol start=\"".toList ++ Text.ofNat start ++ "\">\n".toList

def codeTag (language : Text) : Text :=
  if language.isEmpty then "<pre><code>".toList
  else "<pre><code class=\"language-".toList ++ escapeAttribute language ++ "\">".toList

mutual

/-- Write a block. In a tight list a paragraph is written without tags. -/
def putBlock (tight : Bool) (page : Page) : Block → Page
  | .paragraph content =>
    if tight then page.put (inlinesHtml content)
    else (page.freshLine.put "<p>".toList).put (inlinesHtml content) |>.put "</p>\n".toList
  | .heading level content =>
    let tag := 'h' :: Text.ofNat level
    page.freshLine.put ('<' :: tag ++ ['>'] ++ inlinesHtml content ++ "</".toList ++ tag ++
      ">\n".toList)
  | .rule => page.freshLine.put "<hr />\n".toList
  | .code language contents =>
    page.freshLine.put (codeTag language ++ escapeBody contents ++ "</code></pre>\n".toList)
  | .html contents => page.put contents
  | .quote children =>
    (putBlocks false (page.freshLine.put "<blockquote>\n".toList) children).put
      "</blockquote>\n".toList
  | .list start tight items =>
    (putItems tight (page.freshLine.put (listTag start)) items).put
      (if start.isSome then "</ol>\n".toList else "</ul>\n".toList)
  | .table alignments head rows => page.put (tableHtml alignments head rows)

def putBlocks (tight : Bool) (page : Page) : List Block → Page
  | [] => page
  | block :: rest => putBlocks tight (putBlock tight page block) rest

def putItems (tight : Bool) (page : Page) : List (List Block) → Page
  | [] => page
  | item :: rest =>
    putItems tight
      ((putBlocks tight (page.freshLine.put "<li>".toList) item).put "</li>\n".toList) rest

end

def documentHtml (blocks : List Block) : Text := (putBlocks false {} blocks).text

end StyleCatalog.Markdown
