import StyleCatalog.Comment.Error
import StyleCatalog.Comment.Paragraph
import StyleCatalog.Weight

/-! # Entries of a comment

An entry holds the fields of one section as the author wrote them, before rendering. A reference
paragraph closes the entry made of the paragraphs before it, so that one comment can hold several;
paragraphs after the last reference belong to none.
-/

namespace StyleCatalog

/-- The weight that a text denotes, white space around it aside. -/
def Weight.parse (t : Text) : Except CommentError Weight :=
  match Weight.read? t.trim with
  | some weight => .ok weight
  | none => .error (.invalidWeight t.trim)

structure Variant where
  name : Text
  description : Text
  deriving DecidableEq, Repr

/-- The fields of one section as the author wrote them. -/
structure Entry where
  header : Text := []
  description : Text := []
  variants : List Variant := []
  deprecated : Bool := false
  experimental : Bool := false
  reference : Text
  markup : Option Text := none
  weight : Weight := .zero
  deriving DecidableEq

namespace Entry

def mark (entry : Entry) : Flag → Entry
  | .deprecated => { entry with deprecated := true }
  | .experimental => { entry with experimental := true }

def takeFlag (entry : Entry) (t : Text) : Entry × Text :=
  match Flag.read? t with
  | some (flag, rest) => (entry.mark flag, rest)
  | none => (entry, t)

/-- Add a line to the description of the last variant; before the first one it is dropped. -/
def extendLast (variants : List Variant) (line : Text) : List Variant :=
  match variants.reverse with
  | [] => []
  | last :: before =>
    (⟨last.name, last.description ++ ' ' :: line.trim⟩ :: before).reverse

/-- Read the lines of a modifier paragraph after the variants found so far. A line that names no
modifier goes on with the description above it. -/
def readVariants (found : List Variant) : List Text → List Variant
  | [] => found
  | line :: rest =>
    match Paragraph.modifier? line with
    | some (name, description) => readVariants (found ++ [⟨name, description.trim⟩]) rest
    | none => readVariants (extendLast found line) rest

/-- The markup that a paragraph declares: absent when it is blank. -/
def markupOf (first : Text) (more : List Text) : Option Text :=
  let written := Text.trim (Text.unlines (first :: more))
  if written.isEmpty then none else some written

def addProse (entry : Entry) (t : Text) : Entry :=
  if t.isBlankLine then entry
  else
    { entry with
      description :=
        if entry.description.isEmpty then t.trim else entry.description ++ "\n\n".toList ++ t.trim }

/-- Take in a paragraph below the header. Markup is looked for first, then a weight, then
modifiers; a later markup or weight replaces an earlier one. -/
def absorb (entry : Entry) (paragraph : Paragraph) : Except CommentError Entry :=
  match paragraph with
  | [] => .ok entry
  | first :: more =>
    match Paragraph.markup? first with
    | some markup => .ok { entry with markup := markupOf markup more }
    | none =>
      match Paragraph.weight? first with
      | some written => (Weight.parse written).map fun weight => { entry with weight := weight }
      | none =>
        if (Paragraph.modifier? first).isSome then
          .ok { entry with variants := entry.variants ++ readVariants [] paragraph }
        else
          let flagged := entry.takeFlag paragraph.text
          .ok (flagged.1.addProse flagged.2)

def absorbAll (entry : Entry) : List Paragraph → Except CommentError Entry
  | [] => .ok entry
  | paragraph :: rest =>
    match entry.absorb paragraph with
    | .ok next => next.absorbAll rest
    | .error fault => .error fault

/-- The entry that a reference closes. The first paragraph is the header, whatever it looks
like. -/
def ofBody (reference : Text) : List Paragraph → Except CommentError Entry
  | [] => .ok { reference := reference }
  | header :: rest =>
    let flagged := takeFlag { reference := reference } header.text
    { flagged.1 with header := flagged.2.trim }.absorbAll rest

def closing? : Paragraph → Option Text
  | [] => none
  | first :: _ => Paragraph.reference? first

/-- The entries of a list of paragraphs, `pending` being those that no reference has closed. -/
def ofParagraphs (pending : List Paragraph) : List Paragraph → Except CommentError (List Entry)
  | [] => .ok []
  | paragraph :: rest =>
    match closing? paragraph with
    | none => ofParagraphs (pending ++ [paragraph]) rest
    | some reference =>
      if reference.isEmpty then .error .missingReference
      else
        match ofBody reference pending with
        | .error fault => .error fault
        | .ok entry => (ofParagraphs [] rest).map (entry :: ·)

def ofComment (comment : Text) : Except CommentError (List Entry) :=
  ofParagraphs [] (Paragraph.ofText comment)

end Entry

end StyleCatalog
