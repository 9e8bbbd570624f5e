import StyleCatalog.Markdown.Basic
import StyleCatalog.Markdown.Container
import StyleCatalog.Markdown.Line
import StyleCatalog.Markdown.Source

/-! # The outline of a document

The outline is the block structure with the inline content still unread, since a link may use a
definition that stands further down. A draft is an outline that still grows at its end.
-/

namespace StyleCatalog.Markdown

/-- A block whose inline content is unread. -/
inductive Outline where
  | paragraph (source : Source)
  | heading (level : Nat) (source : Source)
  | rule
  | code (info : Text) (contents : Text)
  | html (contents : Text)
  | table (alignments : List Alignment) (head : List Text) (rows : List (List Text))
  | quote (children : List Outline)
  | list (marker : Marker) (tight : Bool) (items : List (List Outline))
  deriving Inhabited

structure OpenList where
  marker : Marker
  /-- Whether no blank line separates two items or two blocks of one of them. -/
  tight : Bool := true
  /-- The finished items, last first. -/
  items : List (List Outline) := []

structure Shelf where
  /-- The finished blocks, last first. -/
  blocks : List Outline := []
  list : Option OpenList := none

namespace Shelf

def closeList (shelf : Shelf) : Shelf :=
  match shelf.list with
  | none => shelf
  | some list => ⟨.list list.marker list.tight list.items.reverse :: shelf.blocks, none⟩

def add (shelf : Shelf) (block : Outline) : Shelf :=
  { shelf with blocks := block :: shelf.blocks }

def mapList (shelf : Shelf) (change : OpenList → OpenList) : Shelf :=
  { shelf with list := shelf.list.map change }

def toList (shelf : Shelf) : List Outline := shelf.closeList.blocks.reverse

end Shelf

structure Level where
  container : Container
  shelf : Shelf := {}

structure Draft where
  root : Shelf := {}
  /-- The open containers, innermost first. An open item belongs to the list at the end of the level
  below it. -/
  levels : List Level := []
  afterBlank : Bool := false
  /-- Whether the innermost container is an item whose first line is blank. -/
  freshItem : Bool := false
  definitions : List Definition := []

namespace Draft

/-- The open containers, outermost first. -/
def containers (draft : Draft) : List Container := draft.levels.reverse.map Level.container

def top (draft : Draft) : Shelf :=
  match draft.levels with
  | [] => draft.root
  | level :: _ => level.shelf

def mapTop (draft : Draft) (change : Shelf → Shelf) : Draft :=
  match draft.levels with
  | [] => { draft with root := change draft.root }
  | level :: outer => { draft with levels := { level with shelf := change level.shelf } :: outer }

def isInItem (draft : Draft) : Bool :=
  match draft.levels with
  | ⟨.item _, _⟩ :: _ => true
  | _ => false

/-! ## Closing -/

def closeLevel (draft : Draft) : Draft :=
  match draft.levels with
  | [] => draft
  | level :: outer =>
    let below : Draft := { draft with levels := outer, freshItem := false }
    let content := level.shelf.toList
    match level.container with
    | .quote => below.mapTop fun shelf => shelf.add (.quote content)
    | .item _ =>
      below.mapTop fun shelf =>
        shelf.mapList fun list => { list with items := content :: list.items }

def closeLevels (draft : Draft) : Nat → Draft
  | 0 => draft
  | count + 1 => draft.closeLevel.closeLevels count

/-- Close all containers but the `kept` outermost. -/
def closeTo (draft : Draft) (kept : Nat) : Draft := draft.closeLevels (draft.levels.length - kept)

/-- Make the list loose that the innermost container is an item of. -/
def loosen (draft : Draft) : Draft :=
  match draft.levels with
  | ⟨.item indent, shelf⟩ :: outer =>
    let below := { draft with levels := outer }.mapTop fun under =>
      under.mapList fun list => { list with tight := false }
    { below with levels := ⟨.item indent, shelf⟩ :: below.levels }
  | _ => draft

/-! ## Growing -/

/-- Prepare for a block other than an item: the list before it is finished, and if a blank line
stands between, the list around it is loose. -/
def startBlock (draft : Draft) : Draft :=
  let closed := { draft.mapTop Shelf.closeList with freshItem := false }
  if closed.afterBlank then { closed.loosen with afterBlank := false } else closed

def add (draft : Draft) (block : Outline) : Draft := draft.mapTop fun shelf => shelf.add block

def openQuote (draft : Draft) : Draft :=
  let started := draft.startBlock
  { started with levels := ⟨.quote, {}⟩ :: started.levels }

/-- Open an item: it goes on with the list before it, if that has the same kind of mark, or begins a
list. A blank line between two items makes their list loose. -/
def openItem (draft : Draft) (marker : Marker) (indent : Nat) : Draft :=
  let placed :=
    if (draft.top.list.map fun list => list.marker.continues marker).getD false then
      if draft.afterBlank then
        draft.mapTop fun shelf => shelf.mapList fun list => { list with tight := false }
      else draft
    else draft.startBlock.mapTop fun shelf => { shelf with list := some { marker := marker } }
  { placed with
    levels := ⟨.item indent, {}⟩ :: placed.levels
    afterBlank := false
    freshItem := false }

/-- Take in a blank line. One that belongs to a quote separates nothing outside of it, and one after
the blank first line of an item ends the item. -/
def takeBlank (draft : Draft) : Draft :=
  if draft.top.list.isSome then { draft with afterBlank := true }
  else if !draft.isInItem then draft
  else if draft.freshItem then { draft.closeLevel with afterBlank := true }
  else { draft with afterBlank := true }

def toList (draft : Draft) : List Outline := (draft.closeTo 0).root.toList

end Draft

end StyleCatalog.Markdown
