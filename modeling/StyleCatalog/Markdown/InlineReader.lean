import StyleCatalog.Markdown.Emphasis
import StyleCatalog.Markdown.Link
import StyleCatalog.Markdown.Source
import StyleCatalog.Markdown.Tag

/-! # Reading inline content

One pass from left to right cuts a text into pieces. Code spans, autolinks and HTML are taken where
they start; brackets are remembered until their closing bracket decides whether they are a link.
Emphasis is decided last, inside each link on its own.
-/

namespace StyleCatalog.Markdown

/-! ## Code spans -/

/-- Look for the run of exactly `length` backticks that closes a code span. `run` counts the
backticks just passed, and `passed` holds the content so far, last character first. Gives the
content and what follows the closing run. -/
def closeCode (length : Nat) (passed : Text) (run : Nat) : Text → Option (Text × Text)
  | [] => if run = length then some ((passed.drop length).reverse, []) else none
  | c :: rest =>
    if c = '`' then closeCode length (c :: passed) (run + 1) rest
    else if run = length then some ((passed.drop length).reverse, c :: rest)
    else closeCode length (c :: passed) 0 rest

/-- The content of a code span: the characters of line ends become spaces, and one space at each end
is dropped unless there is nothing else. -/
def codeContent (t : Text) : Text :=
  let flat := t.map fun c => if isLineEnd c then ' ' else c
  match flat, flat.reverse with
  | ' ' :: rest, ' ' :: _ => if flat.all (· = ' ') then flat else rest.dropLast
  | _, _ => flat

/-! ## Autolinks -/

/-- A web address in angle brackets, after the opening one: the address and what follows. -/
def addressLink? (t : Text) : Option (Text × Text) :=
  let scheme := t.takeWhile fun c => c.isAlphanum || c = '+' || c = '.' || c = '-'
  let body := t.takeWhile fun c => 0x20 < c.toNat && c ≠ '<' && c ≠ '>'
  match t.drop scheme.length, t.drop body.length with
  | ':' :: _, '>' :: rest =>
    if (scheme.head?.map Char.isAlpha).getD false && 2 ≤ scheme.length && scheme.length ≤ 32 then
      some (body, rest)
    else none
  | _, _ => none

/-- A part of a mail domain: letters, digits and inner dashes. -/
def isDomainPart (t : Text) : Bool :=
  !t.isEmpty && t.length ≤ 63 && t.all (fun c => c.isAlphanum || c = '-') &&
    t.head? ≠ some '-' && t.getLast? ≠ some '-'

def mailLink? (t : Text) : Option (Text × Text) :=
  let body := t.takeWhile (· ≠ '>')
  match t.drop body.length, Text.cutAt? ['@'] body with
  | '>' :: rest, some (user, domain) =>
    if !user.isEmpty &&
        user.all (fun c => c.isAlphanum || ".!#$%&'*+/=?^_`\x7b|\x7d~-".toList.contains c) &&
        (Text.splitAtChar '.' domain).all isDomainPart then
      some (body, rest)
    else none
  | _, _ => none

/-! ## HTML -/

/-- The HTML that starts the rest of a source, after its `<`, and what follows. A tag is written
without what containers take of its lines, a comment or a declaration with it. -/
def markup? (source : Source) (rest : Text) : Option (Text × Text) :=
  match afterTag? rest with
  | some more => some (source.written ('<' :: rest.take (rest.length - more.length)), more)
  | none =>
    let marks := source.marksIn rest
    let marked := withMarks marks rest
    (afterDeclaration? marked).map fun more =>
      let length := marked.length - more.length
      (source.written ('<' :: marked.take length), dropMarked length marks rest)

/-! ## The pass -/

/-- A piece of content, or a bracket that may open a link. -/
inductive Node where
  | piece (content : Piece)
  /-- A bracket, whether it would open an image, whether it may still open anything, and the text
  after it. -/
  | bracket (image active : Bool) (after : Text)

namespace Node

def text (t : Text) : Node := .piece (.done (.text t))

def toPiece : Node → Piece
  | .piece content => content
  | .bracket image _ _ => .done (.text (if image then ['!', '['] else ['[']))

def isBracket : Node → Bool
  | .bracket _ _ _ => true
  | .piece _ => false

/-- A bracket for a link that may open nothing any more: a link holds no other link. -/
def deactivate : Node → Node
  | .bracket false _ after => .bracket false false after
  | other => other

end Node

/-- The text after the bracket that follows a closing bracket. An escaped one counts there, too. -/
def afterOpening? (rest : Text) : Option Text :=
  match rest with
  | '[' :: more => some more
  | '\\' :: '[' :: more => some more
  | _ => none

/-- The destination and title that a closing bracket leads to, with what follows. `label` is the
text between the brackets. A label after the brackets decides alone. -/
def linkTarget? (definitions : List Definition) (label rest : Text) :
    Option (Text × Text × Text) :=
  let inlineTarget :=
    match rest with
    | '(' :: tail => linkTail? tail
    | _ => none
  match inlineTarget with
  | some target => some target
  | none =>
    let own :=
      match label? (label ++ [']']) with
      | some (whole, []) => some whole
      | _ => none
    let named : Option Text × Text :=
      match afterOpening? rest with
      | some (']' :: after) => (own, after)
      | some more =>
        match label? more with
        | some (other, after) => (some other, after)
        | none => (own, rest)
      | none => (own, rest)
    named.1.bind fun wanted =>
      (findDefinition definitions wanted).map fun found =>
        (found.destination, found.title, named.2)

/-- Close the nearest bracket. `nodes` are last first. Gives the nodes and the rest of the text. -/
def closeBracket (definitions : List Definition) (nodes : List Node) (rest : Text) :
    List Node × Text :=
  let inside := nodes.takeWhile fun node => !node.isBracket
  match nodes.drop inside.length with
  | .bracket image true after :: below =>
    let label := after.take (after.length - rest.length - 1)
    match linkTarget? definitions label rest with
    | some (destination, title, remaining) =>
      let content := resolveEmphasis (inside.reverse.map Node.toPiece)
      if image then
        (.piece (.done (.image destination title content)) :: below, remaining)
      else
        (.piece (.done (.link destination title content)) :: below.map Node.deactivate, remaining)
    | none => (Node.text [']'] :: inside ++ Node.text (if image then ['!', '['] else ['[']) :: below,
        rest)
  | .bracket image false _ :: below =>
    (Node.text [']'] :: inside ++ Node.text (if image then ['!', '['] else ['[']) :: below, rest)
  | _ => (Node.text [']'] :: nodes, rest)

def addText (nodes : List Node) (t : Text) : List Node :=
  match nodes with
  | .piece (.done (.text before)) :: below => Node.text (before ++ t) :: below
  | _ => Node.text t :: nodes

/-- What stands on the next line, its indentation left out, if a text is at the end of a line that
another follows. -/
def nextLine? (t : Text) : Option Text :=
  if t.isEmpty then none else (afterLineEnd? t).map fun next => next.dropWhile isIndent

/-- Cut the rest of a source into nodes, last first. `before` is the character just passed; the
counter bounds the steps by the length of the text. -/
def readNodes (definitions : List Definition) (source : Source) :
    Nat → Option Char → List Node → Text → List Node
  | 0, _, nodes, _ => nodes
  | _ + 1, _, nodes, [] => nodes
  | steps + 1, before, nodes, c :: rest =>
    let continueWith (last : Char) (nodes : List Node) (more : Text) : List Node :=
      readNodes definitions source steps (some last) nodes more
    let plain (_ : Unit) := continueWith c (addText nodes [c]) rest
    if isLineBlank c || isLineEnd c then
      let blanks := (c :: rest).takeWhile isLineBlank
      match nextLine? ((c :: rest).drop blanks.length) with
      | some next =>
        let ending := if 2 ≤ blanks.length then Inline.hardBreak else .softBreak
        continueWith '\n' (.piece (.done ending) :: nodes) next
      | none => plain ()
    else if c = '\\' then
      match nextLine? rest, rest with
      | some next, _ => continueWith '\n' (.piece .escapedBreak :: nodes) next
      | none, d :: more =>
        if isAsciiPunctuation d then continueWith d (addText nodes [d]) more else plain ()
      | none, [] => plain ()
    else if c = '`' then
      let run := (c :: rest).takeWhile (· = '`')
      let after := rest.drop (run.length - 1)
      match closeCode run.length [] 0 after with
      | some (content, more) =>
        continueWith c (.piece (.done (.code (codeContent content))) :: nodes) more
      | none => continueWith c (addText nodes run) after
    else if c = '<' then
      match addressLink? rest with
      | some (address, more) =>
        let address := source.written address
        continueWith '>' (.piece (.done (.link address [] [.text address])) :: nodes) more
      | none =>
        match mailLink? rest with
        | some (address, more) =>
          let address := source.written address
          continueWith '>'
            (.piece (.done (.link ("mailto:".toList ++ address) [] [.text address])) :: nodes) more
        | none =>
          match markup? source rest with
          | some (html, more) => continueWith '>' (.piece (.done (.html html)) :: nodes) more
          | none => plain ()
    else if c = '&' then
      match characterReference? rest with
      | some (characters, more) => continueWith ';' (addText nodes characters) more
      | none => plain ()
    else if c = '!' && Text.startsWith ['['] rest then
      let after := rest.drop 1
      continueWith '[' (.bracket true true after :: nodes) after
    else if c = '[' then
      continueWith c (.bracket false true rest :: nodes) rest
    else if c = ']' then
      let closed := closeBracket definitions nodes rest
      continueWith c closed.1 closed.2
    else if c = '*' || c = '_' || c = '~' then
      let length := ((c :: rest).takeWhile (· = c)).length
      let after := rest.drop (length - 1)
      let opens := canOpen c length before after.head?
      let closes := canClose c length before after.head?
      if (opens || closes) && (c ≠ '~' || length ≤ 2) then
        continueWith c (.piece (.run ⟨c, length, opens, closes⟩) :: nodes) after
      else continueWith c (addText nodes (List.replicate length c)) after
    else plain ()

/-- Put the blanks at the end of a heading behind its content. They belong to the text that ends it
or to what follows a tag or a destination; after anything else they are dropped. -/
def addTail (source : Source) (content : List Inline) : List Inline :=
  if source.tail.isEmpty then content
  else
    match content.reverse with
    | .text t :: before => (.text (t ++ source.tail) :: before).reverse
    | _ =>
      if source.text.getLast? = some '>' || source.text.getLast? = some ')' then
        content ++ [.text source.tail]
      else content

def readInline (definitions : List Definition) (source : Source) : List Inline :=
  let nodes := readNodes definitions source (source.text.length + 1) none [] source.text
  addTail source (resolveEmphasis (nodes.reverse.map Node.toPiece))

end StyleCatalog.Markdown
