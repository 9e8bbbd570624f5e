import StyleCatalog.Markdown.Blank

/-! # HTML tags

Recognisers for the HTML that Markdown passes through. Each takes the text after the opening `<`
and gives what follows the construct.
-/

namespace StyleCatalog.Markdown

def afterTagName? (t : Text) : Option Text :=
  match t with
  | [] => none
  | c :: rest =>
    if c.isAlpha then some (rest.dropWhile fun d => d.isAlphanum || d = '-') else none

def isAttributeChar (c : Char) : Bool :=
  c.isAlphanum || c = '_' || c = '.' || c = ':' || c = '-'

def isBareValueChar (c : Char) : Bool := !isLineEnd c && !" \"'=<>`".toList.contains c

def afterAttributeValue? (t : Text) : Option Text :=
  match t with
  | [] => none
  | c :: rest =>
    if c = '"' || c = '\'' then
      match rest.dropWhile (· ≠ c) with
      | _ :: after => some after
      | [] => none
    else if isBareValueChar c then some (rest.dropWhile isBareValueChar)
    else none

def afterAttribute? (t : Text) : Option Text :=
  match t with
  | [] => none
  | c :: rest =>
    if c.isAlpha || c = '_' || c = ':' then
      let afterName := rest.dropWhile isAttributeChar
      match afterName.dropWhile isGap with
      | '=' :: value => afterAttributeValue? (value.dropWhile isGap)
      | _ => some afterName
    else none

def afterTagEnd? (t : Text) : Option Text :=
  match t.dropWhile isGap with
  | '>' :: rest => some rest
  | '/' :: '>' :: rest => some rest
  | _ => none

/-- What follows the attributes and the end of an opening tag. The counter bounds the number of
attributes. -/
def afterAttributes? : Nat → Text → Option Text
  | 0, _ => none
  | steps + 1, t =>
    match afterTagEnd? t with
    | some rest => some rest
    | none =>
      match t with
      | [] => none
      | c :: _ =>
        if isGap c then (afterAttribute? (t.dropWhile isGap)).bind (afterAttributes? steps)
        else none

def afterOpenTag? (t : Text) : Option Text :=
  (afterTagName? t).bind (afterAttributes? (t.length + 1))

/-- What follows a closing tag, which stands on one line. -/
def afterCloseTag? (t : Text) : Option Text :=
  match t with
  | '/' :: rest =>
    match afterTagName? rest with
    | none => none
    | some afterName =>
      match afterName.dropWhile isLineBlank with
      | '>' :: after => some after
      | _ => none
  | _ => none

def afterTag? (t : Text) : Option Text := (afterOpenTag? t).orElse fun _ => afterCloseTag? t

def afterMarker? (marker t : Text) : Option Text := (Text.cutAt? marker t).map Prod.snd

/-- What follows the contents of a character data section. Its first closing brackets have to end
it. -/
def afterCharacterData? (t : Text) : Option Text :=
  match t.dropWhile (· ≠ ']') with
  | [] => none
  | brackets =>
    match brackets.dropWhile (· = ']') with
    | '>' :: rest => some rest
    | _ => none

def afterDeclaration? (t : Text) : Option Text :=
  match t with
  | '!' :: '-' :: '-' :: '>' :: rest => some rest
  | '!' :: '-' :: '-' :: '-' :: '>' :: rest => some rest
  | '!' :: '-' :: '-' :: rest => afterMarker? "-->".toList rest
  | '?' :: rest => afterMarker? "?>".toList rest
  | '!' :: '[' :: 'C' :: 'D' :: 'A' :: 'T' :: 'A' :: '[' :: rest => afterCharacterData? rest
  | '!' :: c :: rest => if c.isAlpha then afterMarker? ">".toList rest else none
  | _ => none

/-! ## HTML blocks -/

/-- The elements whose tags start a block wherever they start a line. -/
def blockElements : List Text :=
  ["address", "article", "aside", "base", "basefont", "blockquote", "body", "caption", "center",
    "col", "colgroup", "dd", "details", "dialog", "dir", "div", "dl", "dt", "fieldset",
    "figcaption", "figure", "footer", "form", "frame", "frameset", "h1", "h2", "h3", "h4", "h5",
    "h6", "head", "header", "hr", "html", "iframe", "legend", "li", "link", "main", "menu",
    "menuitem", "nav", "noframes", "ol", "optgroup", "option", "p", "param", "search", "section",
    "summary", "table", "tbody", "td", "tfoot", "th", "thead", "title", "tr", "track",
    "ul"].map String.toList

/-- The elements whose contents are kept as they are up to their closing tag. -/
def verbatimElements : List Text := ["pre", "script", "style", "textarea"].map String.toList

inductive HtmlEnd where
  /-- On the line that holds this marker. -/
  | marker (marker : Text)
  /-- Before the next blank line. -/
  | blankLine
  deriving DecidableEq, Repr

def withoutSlash (t : Text) : Text :=
  match t with
  | '/' :: rest => rest
  | _ => t

/-- The end of a block of HTML that begins with an element whose contents are kept, a comment, a
processing instruction, a character data section or a declaration. The text starts after the `<`.
The element may be written in any letter case, but its closing tag in small letters only. -/
def markedEnd? (t : Text) : Option HtmlEnd :=
  let name := Text.asciiLower (t.takeWhile Char.isAlphanum)
  let nameEnds := ((t.drop name.length).head?.map fun c => c = '>' || isGap c).getD true
  if verbatimElements.contains name && nameEnds then
    some (.marker ("</".toList ++ name ++ ['>']))
  else if Text.startsWith "!--".toList t then some (.marker "-->".toList)
  else if Text.startsWith "?".toList t then some (.marker "?>".toList)
  else if Text.startsWith "![CDATA[".toList t then some (.marker "]]>".toList)
  else if Text.startsWith "!".toList t && ((t.drop 1).head?.map Char.isAlpha).getD false then
    some (.marker ">".toList)
  else none

def startsBlockElement (t : Text) : Bool :=
  let inner := withoutSlash t
  let name := inner.takeWhile Char.isAlphanum
  let after := inner.drop name.length
  let nameEnds :=
    (after.head?.map fun c => c = '>' || isIndent c || isLineEnd c).getD true
  blockElements.contains (Text.asciiLower name) &&
    (nameEnds || Text.startsWith "/>".toList after)

/-- Whether a tag stands alone on the line, given after its `<`. -/
def isLoneTag (t : Text) : Bool :=
  ((afterTag? (lineOf t)).map fun rest => rest.all isLineBlank).getD false

/-- The end of the HTML block that a text starts. A lone tag that is no block element starts a block
only where it does not interrupt a paragraph. -/
def htmlEnd? (interrupting : Bool) (t : Text) : Option HtmlEnd :=
  match t with
  | '<' :: inside =>
    match markedEnd? inside with
    | some stop => some stop
    | none =>
      if startsBlockElement inside || (!interrupting && isLoneTag inside) then some .blankLine
      else none
  | _ => none

end StyleCatalog.Markdown
