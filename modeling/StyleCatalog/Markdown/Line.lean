import StyleCatalog.Markdown.Blank

/-! # What a line can be

Each recogniser takes the text from the first character of a line that is no blank, and gives back
what follows where it takes the line.
-/

namespace StyleCatalog.Markdown

/-- A thematic break: three or more of one mark, with blanks between. -/
def isRule (t : Text) : Bool :=
  match lineOf t with
  | [] => false
  | c :: rest =>
    (c = '-' || c = '_' || c = '*') && rest.all (fun d => d = c || isIndent d) && 2 ≤ rest.count c

def underline? (t : Text) : Option (Nat × Text) :=
  match t with
  | [] => none
  | c :: rest =>
    if c = '=' || c = '-' then
      (afterBlankLine? (rest.dropWhile (· = c))).map fun after => (if c = '=' then 1 else 2, after)
    else none

/-- A heading's text without the spaces and the marks that may close it, and apart from it the
blanks that end the line where no marks do. -/
def headingText (line : Text) : Text × Text :=
  let body := Text.dropEndWhile (· = ' ') line
  let kept := Text.dropEndWhile (· = '#') body
  let unclosed := Text.dropEndWhile (· = ' ') kept
  if kept.isEmpty then ([], [])
  else if unclosed.length < kept.length then (unclosed, [])
  else
    let text := Text.dropEndWhile isLineBlank body
    (text, body.drop text.length)

/-- A heading marked by `#`: its level, its text with the blanks after it, and what follows. -/
def heading? (t : Text) : Option (Nat × (Text × Text) × Text) :=
  let level := (t.takeWhile (· = '#')).length
  let after := t.drop level
  if level = 0 || 6 < level || !((after.head?.map isGap).getD true) then none
  else
    let start := after.dropWhile isLineBlank
    some (level, headingText (lineOf start), afterLine start)

/-- The first line of a text up to and with its line feed, and what follows. Verbatim blocks know no
other line end. -/
def cutLine (t : Text) : Text × Text :=
  let line := t.takeWhile (· ≠ '\n')
  match t.drop line.length with
  | c :: rest => (line ++ [c], rest)
  | [] => (line, [])

/-- A line of a verbatim block. A carriage return before its last character is dropped, if that
character is an ASCII one. -/
def verbatim (line : Text) : Text :=
  match line.reverse with
  | last :: '\r' :: before => if last.toNat < 0x80 then (last :: before).reverse else line
  | _ => line

structure Fence where
  mark : Char
  length : Nat
  /-- What stands after the marks, without the blanks around it. -/
  info : Text
  deriving DecidableEq, Repr

def fence? (t : Text) : Option (Fence × Text) :=
  match t with
  | [] => none
  | c :: _ =>
    let length := (t.takeWhile (· = c)).length
    let after := t.drop length
    if (c = '`' || c = '~') && 3 ≤ length &&
        (c = '~' || !(after.takeWhile (· ≠ '\n')).contains '`') then
      let cut := cutLine (after.dropWhile isLineBlank)
      some (⟨c, length, Text.dropEndWhile isGap cut.1⟩, cut.2)
    else none

/-- What follows the marks and spaces that close a block of code. The end of the text closes it as
well. -/
def Fence.afterClosing? (fence : Fence) (t : Text) : Option Text :=
  let run := t.takeWhile (· = fence.mark)
  let after := (t.drop run.length).dropWhile (· = ' ')
  if t.isEmpty then some []
  else if fence.length ≤ run.length && atLineEnd after then some after
  else none

inductive Marker where
  | bullet (mark : Char)
  | ordered (delimiter : Char) (start : Nat)
  deriving DecidableEq, Repr

def Marker.continues : Marker → Marker → Bool
  | .bullet a, .bullet b => a = b
  | .ordered a _, .ordered b _ => a = b
  | _, _ => false

/-- Whether an item may start in the middle of a paragraph: an ordered one has to start at one. -/
def Marker.mayInterrupt : Marker → Bool
  | .bullet _ => true
  | .ordered _ start => start = 1

/-- The mark of a list item and its width. A blank or the end of the line has to follow. -/
def marker? (t : Text) : Option (Marker × Nat) :=
  match t with
  | [] => none
  | c :: rest =>
    let ends (after : Text) : Bool :=
      (after.head?.map fun d => isIndent d || isLineEnd d).getD true
    if c = '-' || c = '+' || c = '*' then
      if ends rest then some (.bullet c, 1) else none
    else
      let digits := t.takeWhile Char.isDigit
      match t.drop digits.length with
      | d :: after =>
        if !digits.isEmpty && digits.length ≤ 9 && (d = '.' || d = ')') && ends after then
          some (.ordered d (Text.digitsValue digits), digits.length + 1)
        else none
      | [] => none

end StyleCatalog.Markdown
