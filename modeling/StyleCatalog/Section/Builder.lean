import StyleCatalog.Comment.Entry
import StyleCatalog.Comment.Parameter
import StyleCatalog.Options
import StyleCatalog.Section.Basic
import StyleCatalog.Stylesheet.Block

/-! # Building sections

A documentation block becomes a section: its comment is cleaned of parameters and read, the texts
are rendered, and the parameters are merged in. A block builds the same section whatever stands
around it.
-/

namespace StyleCatalog

/-- Something worth telling about a build that did not fail. -/
inductive Notice where
  /-- A comment declares several sections, of which the first is kept. -/
  | severalSections (references : List Text)
  | computedField (name reference : Text)
  | fileBlocks (path : Text) (count : Nat)
  | catalogBuilt (sections files : Nat)
  deriving DecidableEq, Repr

def Notice.message : Notice → Text
  | .severalSections references =>
    "WARN: Comment block declared ".toList ++ Text.ofNat references.length ++
      " sections (".toList ++ List.intercalate ", ".toList references ++
      "); keeping only '".toList ++ references.head?.getD [] ++ "'".toList
  | .computedField name reference =>
    "WARN: Ignoring parameter '".toList ++ name ++ "' on '".toList ++ reference ++
      "': the field is computed".toList
  | .fileBlocks path count =>
    "DEBUG: ".toList ++ path ++ ": ".toList ++ Text.ofNat count ++ " KSS blocks".toList
  | .catalogBuilt sections files =>
    "INFO: Built ".toList ++ Text.ofNat sections ++ " sections from ".toList ++ Text.ofNat files ++
      " files".toList

structure Builder where
  marker : Text
  render : Renderer

def Options.builder (options : Options) : Builder := ⟨options.marker, options.renderer⟩

/-! ## Cleaning comments -/

/-- The text with line feeds as its only line ends and four spaces for each tab. -/
def normalizeBlanks (t : Text) : Text :=
  Text.replaceAll ['\t'] "    ".toList <|
    Text.replaceAll ['\r'] ['\n'] <| Text.replaceAll ['\r', '\n'] ['\n'] t

/-- The comment as the author's paragraphs: without parameters, tabs, carriage returns and trailing
white space. -/
def cleanComment (marker comment : Text) : Text :=
  let kept := withoutParameters marker (normalizeBlanks comment)
  Text.trim (Text.unlines (kept.lines.map Text.trimEnd))

/-! ## Merging parameters -/

def computedFields : List Text :=
  ["modifiers", "stringReference", "file", "syntax"].map String.toList

/-- The truth value that a flag parameter gives; an empty one is true. -/
def readFlag (name value : Text) : Except CommentError Bool :=
  let word := Text.asciiLower value.trim
  if ["", "true", "yes"].any fun known => known.toList = word then .ok true
  else if ["false", "no"].any fun known => known.toList = word then .ok false
  else .error (.invalidFlag name value.trim)

/-- Merge a parameter into a section: it sets the field of its name, or is kept beside the
fields. -/
def Section.merge (s : Section) (parameter : Parameter) : Except CommentError Section :=
  let name := parameter.name
  let value := parameter.value
  if computedFields.contains name then .ok s
  else if name = "header".toList then .ok { s with header := value }
  else if name = "description".toList then .ok { s with description := value }
  else if name = "reference".toList then .ok { s with reference := value }
  else if name = "markup".toList then .ok { s with markup := some value }
  else if name = "css".toList then .ok { s with css := some value }
  else if name = "weight".toList then
    (Weight.parse value).map fun weight => { s with weight := weight }
  else if name = "deprecated".toList then
    (readFlag name value).map fun flag => { s with deprecated := flag }
  else if name = "experimental".toList then
    (readFlag name value).map fun flag => { s with experimental := flag }
  else .ok { s with extras := s.extras.insert name value }

def Section.mergeNotices (s : Section) (parameter : Parameter) : List Notice :=
  if computedFields.contains parameter.name then [.computedField parameter.name s.reference]
  else []

def Section.mergeAll (s : Section) : List Parameter → Except CommentError (Section × List Notice)
  | [] => .ok (s, [])
  | parameter :: rest =>
    match s.merge parameter with
    | .error fault => .error fault
    | .ok merged =>
      (merged.mergeAll rest).map fun result =>
        (result.1, s.mergeNotices parameter ++ result.2)

/-- What is told while parameters are merged in order. A fault ends it. -/
def Section.mergeLog (s : Section) : List Parameter → List Notice
  | [] => []
  | parameter :: rest =>
    s.mergeNotices parameter ++
      match s.merge parameter with
      | .error _ => []
      | .ok merged => merged.mergeLog rest

/-! ## Building -/

/-- The modifiers of an entry, numbered from `position` on. -/
def Entry.modifiersFrom (render : Renderer) (markup : Option Text) (position : Nat) :
    List Variant → List Modifier
  | [] => []
  | variant :: rest =>
    let className := Modifier.classNameOf variant.name
    { id := UInt64.ofNat position
      name := variant.name
      description := render variant.description true
      className := className
      markup := Modifier.fillMarkup markup className } ::
    Entry.modifiersFrom render markup (position + 1) rest

def Entry.toSection (render : Renderer) (entry : Entry) : Section :=
  { header := render entry.header true
    description := render entry.description false
    modifiers := Entry.modifiersFrom render entry.markup 1 entry.variants
    deprecated := entry.deprecated
    experimental := entry.experimental
    reference := entry.reference
    weight := entry.weight
    markup := entry.markup }

/-- The code below a comment without the line ends around it, unless nothing is left. -/
def styleOf (code : Option Text) : Option Text :=
  let isLineEnd (c : Char) : Bool := c = '\r' || c = '\n'
  code.bind fun source =>
    let css := Text.dropEndWhile isLineEnd (source.dropWhile isLineEnd)
    if css.isEmpty then none else some css

def entryNotices (entries : List Entry) : List Notice :=
  if 1 < entries.length then [.severalSections (entries.map Entry.reference)] else []

/-- Build the section of a block, with what is told about it if nothing is at fault. A comment
without a reference gives none; of several sections in one comment the first is kept. The parameters
are those of the comment as it was written. -/
def Builder.build (builder : Builder) (block : Block) :
    Except CommentError (Option Section × List Notice) :=
  match Entry.ofComment (cleanComment builder.marker block.comment) with
  | .error fault => .error fault
  | .ok [] => .ok (none, [])
  | .ok (entry :: others) =>
    let drafted := { entry.toSection builder.render with css := styleOf block.code }
    (drafted.mergeAll (parameters builder.marker block.comment)).map fun merged =>
      (some merged.1, entryNotices (entry :: others) ++ merged.2)

/-- What is told while a block is built, up to its fault if it has one. -/
def Builder.blockLog (builder : Builder) (block : Block) : List Notice :=
  match Entry.ofComment (cleanComment builder.marker block.comment) with
  | .error _ => []
  | .ok [] => []
  | .ok (entry :: others) =>
    let drafted := { entry.toSection builder.render with css := styleOf block.code }
    entryNotices (entry :: others) ++ drafted.mergeLog (parameters builder.marker block.comment)

end StyleCatalog
