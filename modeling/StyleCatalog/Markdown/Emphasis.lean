import StyleCatalog.Markdown.Basic
import StyleCatalog.Markdown.Punctuation

/-! # Emphasis

Runs of `*`, `_` and `~` open and close emphasis. Which of the two a run can do depends on the
characters around it; which run closes which is decided by a walk from left to right that keeps the
open runs on a stack.
-/

namespace StyleCatalog.Markdown

structure Run where
  mark : Char
  length : Nat
  canOpen : Bool
  canClose : Bool
  deriving DecidableEq, Repr

/-- Marks that work within a word: `*` and a double `~`. -/
def worksInWord (mark : Char) (length : Nat) : Bool := mark = '*' || (mark = '~' && 1 < length)

def canOpen (mark : Char) (length : Nat) (before after : Option Char) : Bool :=
  match after with
  | none => false
  | some next =>
    if isBlank next then false
    else
      match before with
      | none => true
      | some last =>
        (worksInWord mark length && (mark = '~' || !isPunctuation next)) ||
          isBlank last || isPunctuation last

/-- Whether a run can close emphasis between two characters, absent at the ends of the text. A `~`
that another one precedes, without being part of the run, always can. -/
def canClose (mark : Char) (length : Nat) (before after : Option Char) : Bool :=
  match before with
  | none => false
  | some last =>
    if isBlank last then false
    else
      match after with
      | none => true
      | some next =>
        (worksInWord mark length && !isPunctuation last) || (mark = '~' && last = '~') ||
          isBlank next || isPunctuation next

/-- Inline content in which emphasis is not yet decided. -/
inductive Piece where
  | done (content : Inline)
  | run (marks : Run)
  | escapedBreak

def Piece.isRun : Piece → Bool
  | .run _ => true
  | _ => false

/-- An open run with the content after it, last first. -/
structure Opener where
  mark : Char
  count : Nat
  length : Nat
  /-- Whether the run could have closed as well. -/
  both : Bool
  usable : Bool := true
  content : List Inline := []

def markText (mark : Char) (count : Nat) : List Inline :=
  if count = 0 then [] else [.text (List.replicate count mark)]

def Opener.flatten (opener : Opener) : List Inline :=
  markText opener.mark opener.count ++ opener.content.reverse

/-- The walk's state: content before the first open run, and the open runs, both last first. -/
structure Walk where
  base : List Inline := []
  openers : List Opener := []

namespace Walk

def add (walk : Walk) (content : List Inline) : Walk :=
  match walk.openers with
  | [] => { walk with base := content.reverse ++ walk.base }
  | top :: below =>
    { walk with openers := { top with content := content.reverse ++ top.content } :: below }

/-- Whether a closing run matches an open one. Runs of `~` match at equal length; of the others,
runs that could both open and close match only if their lengths do not add up to a multiple of
three, unless both are multiples of three. -/
def fits (run : Run) (opener : Opener) : Bool :=
  opener.usable && opener.mark = run.mark &&
    (if run.mark = '~' then run.length = opener.length else true) &&
    ((!(run.canOpen && run.canClose) && !opener.both) ||
      (run.length + opener.length) % 3 ≠ 0 || run.length % 3 = 0)

/-- Split the open runs at the nearest one that fits: the content above it, in order, the run
itself and the runs below. -/
def findOpener (run : Run) : List Opener → Option (List Inline × Opener × List Opener)
  | [] => none
  | opener :: below =>
    if fits run opener then some ([], opener, below)
    else (findOpener run below).map fun found => (found.1 ++ opener.flatten, found.2)

/-- Wrap content in the emphasis of `count` marks, two at a time from the inside. -/
def wrap (mark : Char) : Nat → List Inline → List Inline
  | 0, content => content
  | 1, content => if mark = '~' then [.strikethrough content] else [.emphasis content]
  | count + 2, content =>
    wrap mark count (if mark = '~' then [.strikethrough content] else [.strong content])

/-- Close emphasis with the `count` marks left of a run, as long as an open run fits. Gives the
walk and the marks left over; `steps` bounds the number of runs closed. -/
def close (run : Run) : Nat → Nat → Walk → Walk × Nat
  | 0, count, walk => (walk, count)
  | steps + 1, count, walk =>
    if count = 0 then (walk, 0)
    else
      match findOpener run walk.openers with
      | none =>
        if run.mark = '~' then
          let spoil (opener : Opener) : Opener :=
            if opener.mark = '~' then { opener with usable := false } else opener
          ({ walk with openers := walk.openers.map spoil }, count)
        else (walk, count)
      | some (above, opener, below) =>
        let used := min count opener.count
        let wrapped := wrap run.mark used (opener.content.reverse ++ above)
        let rest : Walk := { walk with openers := below }
        let next :=
          if opener.count = used then rest.add wrapped
          else
            { walk with
              openers :=
                { opener with count := opener.count - used, content := wrapped.reverse } :: below }
        close run steps (count - used) next

/-- Take in a run: it closes what it can, and its marks left over open or stay text. -/
def takeRun (walk : Walk) (run : Run) : Walk :=
  let closed := if run.canClose then close run run.length run.length walk else (walk, run.length)
  if closed.2 = 0 then closed.1
  else if run.canOpen then
    { closed.1 with
      openers :=
        { mark := run.mark, count := closed.2, length := run.length,
          both := run.canOpen && run.canClose } :: closed.1.openers }
  else closed.1.add (markText run.mark closed.2)

def take (walk : Walk) : Piece → Walk
  | .done content => walk.add [content]
  | .run marks => walk.takeRun marks
  | .escapedBreak => walk.add [.hardBreak]

/-- The content of a finished walk: runs that are still open stay text. -/
def finish (walk : Walk) : List Inline :=
  walk.base.reverse ++ (walk.openers.reverse.map Opener.flatten).flatten

end Walk

/-- Decide the emphasis in a list of pieces. Where there are marks to decide about, a backslash that
would break the last line stays text. -/
def resolveEmphasis (pieces : List Piece) : List Inline :=
  match pieces.getLast? with
  | some .escapedBreak =>
    if pieces.any Piece.isRun then
      ((pieces.dropLast.foldl Walk.take {}).add [.text ['\\']]).finish
    else (pieces.foldl Walk.take {}).finish
  | _ => (pieces.foldl Walk.take {}).finish

end StyleCatalog.Markdown
