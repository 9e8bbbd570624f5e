import StyleCatalog.Markdown.Basic
import StyleCatalog.Markdown.Blank
import StyleCatalog.Markdown.Escape
import StyleCatalog.Text.Caseless

/-! # Links

The parts of links and of link definitions: labels, destinations and titles. Each reader takes the
front of the remaining text and gives back what follows.
-/

namespace StyleCatalog.Markdown

/-! ## Labels -/

structure LabelReading where
  /-- The label so far, last character first, with every run of blanks as one space. -/
  passed : Text := []
  filled : Bool := false
  /-- What the length limit counts: blanks, escapes, and the bytes of characters beyond ASCII. -/
  weight : Nat := 0

def labelLimit : Nat := 1000

/-- Read a label up to its closing bracket. Brackets inside a label have to be escaped, a label is
not blank, and no blank line stands in it. The counter bounds the steps by the length of the
text. -/
def readLabel : Nat → LabelReading → Text → Option (Text × Text)
  | 0, _, _ => none
  | _ + 1, _, [] => none
  | steps + 1, label, c :: rest =>
    if labelLimit ≤ label.weight || c = '[' then none
    else if c = ']' then if label.filled then some (label.passed.reverse, rest) else none
    else if isGap c then
      let blanks := (c :: rest).takeWhile isGap
      let firstLine := blanks.dropWhile isLineBlank
      let secondLine := ((afterLineEnd? firstLine).getD []).dropWhile isLineBlank
      if secondLine.isEmpty then
        readLabel steps
          { label with passed := ' ' :: label.passed, weight := label.weight + blanks.length }
          ((c :: rest).drop blanks.length)
      else none
    else
      match c, rest with
      | '\\', d :: more =>
        if isAsciiPunctuation d then
          readLabel steps ⟨d :: c :: label.passed, true, label.weight + 2⟩ more
        else readLabel steps ⟨c :: label.passed, true, label.weight⟩ rest
      | _, _ =>
        let weight := if c.toNat < 0x80 then 0 else c.utf8Size
        readLabel steps ⟨c :: label.passed, true, label.weight + weight⟩ rest

def label? (t : Text) : Option (Text × Text) := readLabel (t.length + 1) {} t

/-- The first definition of a label. Letter case makes no difference. -/
def findDefinition (definitions : List Definition) (label : Text) : Option Definition :=
  let wanted := Text.withoutCase label
  definitions.find? fun definition => Text.withoutCase definition.label = wanted

/-! ## Destinations -/

def readPointed : Text → Option (Text × Text)
  | [] => none
  | '>' :: rest => some ([], rest)
  | '\n' :: _ => none
  | '\r' :: _ => none
  | '<' :: _ => none
  | '\\' :: c :: rest =>
    if isAsciiPunctuation c then
      (readPointed rest).map fun read => ('\\' :: c :: read.1, read.2)
    else (readPointed (c :: rest)).map fun read => ('\\' :: read.1, read.2)
  | c :: rest => (readPointed rest).map fun read => (c :: read.1, read.2)

/-- Read a bare destination, `depth` parentheses being open. It ends before a blank or a closing
parenthesis that was not opened in it, and none may open while more than `limit` are open. -/
def readBare (limit depth : Nat) : Text → Option (Text × Text)
  | [] => if depth = 0 then some ([], []) else none
  | '\\' :: c :: rest =>
    if isAsciiPunctuation c then
      (readBare limit depth rest).map fun read => ('\\' :: c :: read.1, read.2)
    else (readBare limit depth (c :: rest)).map fun read => ('\\' :: read.1, read.2)
  | c :: rest =>
    if c.toNat ≤ 0x20 then if depth = 0 then some ([], c :: rest) else none
    else if c = '(' then
      if limit < depth then none
      else (readBare limit (depth + 1) rest).map fun read => (c :: read.1, read.2)
    else if c = ')' then
      match depth with
      | 0 => some ([], c :: rest)
      | outer + 1 => (readBare limit outer rest).map fun read => (c :: read.1, read.2)
    else (readBare limit depth rest).map fun read => (c :: read.1, read.2)

/-- A destination and what follows it. A bare destination may be empty. -/
def readDestination (limit : Nat) (t : Text) : Option (Text × Text) :=
  match t with
  | '<' :: rest => readPointed rest
  | _ => readBare limit 0 t

/-! ## Titles -/

def titleCloser? (c : Char) : Option Char :=
  if c = '"' || c = '\'' then some c else if c = '(' then some ')' else none

/-- Read a title up to its closing mark. A parenthesised title holds no other parenthesis. The
indentation of its lines is left out. The counter bounds the steps by the length of the text. -/
def readTitle (opener closer : Char) : Nat → Text → Option (Text × Text)
  | 0, _ => none
  | _ + 1, [] => none
  | steps + 1, c :: rest =>
    if c = closer then some ([], rest)
    else if c = opener then none
    else if c = '\n' || (c = '\r' && !Text.startsWith ['\n'] rest) then
      (readTitle opener closer steps (rest.dropWhile isIndent)).map fun read =>
        ('\n' :: read.1, read.2)
    else
      match c, rest with
      | '\\', d :: more =>
        if isAsciiPunctuation d then
          (readTitle opener closer steps more).map fun read => (c :: d :: read.1, read.2)
        else (readTitle opener closer steps rest).map fun read => (c :: read.1, read.2)
      | _, _ => (readTitle opener closer steps rest).map fun read => (c :: read.1, read.2)

def linkTitle? (t : Text) : Option (Text × Text) :=
  match t with
  | [] => none
  | c :: rest => (titleCloser? c).bind fun closer => readTitle c closer (rest.length + 1) rest

/-- The text after blanks that hold at most one line end. -/
def skipToNextLine (t : Text) : Text :=
  let line := t.dropWhile isLineBlank
  ((afterLineEnd? line).getD line).dropWhile isLineBlank

def linkNesting : Nat := 32

/-- The destination and title of an inline link, after its opening parenthesis, and what follows the
closing one. -/
def linkTail? (t : Text) : Option (Text × Text × Text) :=
  match readDestination linkNesting (skipToNextLine t) with
  | none => none
  | some (destination, rest) =>
    let start := skipToNextLine rest
    let (title, after) :=
      match linkTitle? start with
      | some (title, rest) => (title, skipToNextLine rest)
      | none => ([], start)
    match after with
    | ')' :: remaining => some (unescape destination, unescape title, remaining)
    | _ => none

/-! ## Definitions

A definition is read from the lines that could go on with a paragraph at its place, joined by line
feeds. -/

/-- Read the title of a definition up to its closing mark. A backslash keeps the character after it
from closing the title. -/
def readDefinitionTitle (closer : Char) : Text → Option (Text × Text)
  | [] => none
  | '\\' :: c :: rest =>
    (readDefinitionTitle closer rest).map fun read => ('\\' :: c :: read.1, read.2)
  | c :: rest =>
    if c = closer then some ([], rest)
    else (readDefinitionTitle closer rest).map fun read => (c :: read.1, read.2)

/-- The title of a definition, if nothing but blanks follows it on its line, and the text from there
on. -/
def definitionTitle? (t : Text) : Option (Text × Text) :=
  match t with
  | [] => none
  | c :: inside =>
    (titleCloser? c).bind fun closer =>
      (readDefinitionTitle closer inside).bind fun (title, after) =>
        if startsBlank after then some (unescape title, after) else none

def definitionNesting : Nat := 1

/-- The link definition at the start of a text, and the text from the blanks that end its last line.
A title that does not end its line is no part of the definition, which then has to end on the line
above. -/
def definition? (t : Text) : Option (Definition × Text) :=
  match t with
  | '[' :: inside =>
    match label? inside with
    | some (label, ':' :: afterColon) =>
      let start := skipToNextLine afterColon
      match readDestination definitionNesting start with
      | none => none
      | some (destination, rest) =>
        if start.length = rest.length then none
        else
          let next := skipToNextLine rest
          let titled := if rest.length = next.length then none else definitionTitle? next
          match titled with
          | some (title, after) => some (⟨label, unescape destination, title⟩, after)
          | none =>
            if startsBlank rest then some (⟨label, unescape destination, []⟩, rest) else none
    | _ => none
  | _ => none

end StyleCatalog.Markdown
