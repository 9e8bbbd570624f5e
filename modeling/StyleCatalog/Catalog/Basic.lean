import StyleCatalog.Files.Path
import StyleCatalog.Reference.Numbering
import StyleCatalog.Section.Builder

/-! # Catalogues

The catalogue of a set of stylesheets: the sections of all their blocks, in the order of files and
blocks, then sorted and numbered. One fault leaves no catalogue at all.
-/

namespace StyleCatalog

structure SourceFile where
  path : Text
  contents : Text
  deriving DecidableEq, Repr

/-- The stylesheet language: the file's extension in lower case, empty when it has none. -/
def SourceFile.dialect (file : SourceFile) : Text :=
  ((Path.extension? file.path).map Text.lower).getD []

def SourceFile.blocks (file : SourceFile) : List Block := blocksOf file.contents file.dialect

inductive CatalogError where
  /-- A block of a file, counted from zero, is at fault. -/
  | block (file : Text) (index : Nat) (cause : CommentError)
  | collision (collision : Collision)
  deriving DecidableEq, Repr

def CatalogError.message : CatalogError → Text
  | .block file index cause =>
    "Failed to parse block ".toList ++ Text.ofNat index ++ " in ".toList ++ file ++ ": ".toList ++
      cause.message
  | .collision clash => clash.message

/-- Sections with what was told about their building. What is told before a fault is in
`Builder.log`. -/
structure Built where
  sections : List Section := []
  notices : List Notice := []

def Built.append (a b : Built) : Built := ⟨a.sections ++ b.sections, a.notices ++ b.notices⟩

def Section.fromFile (s : Section) (file : SourceFile) : Section :=
  { s with file := file.path, dialect := file.dialect }

namespace Builder

/-- Build the blocks of a file that follow the first `index`. -/
def buildBlocks (builder : Builder) (file : SourceFile) (index : Nat) :
    List Block → Except CatalogError Built
  | [] => .ok {}
  | block :: rest =>
    match builder.build block with
    | .error fault => .error (.block file.path index fault)
    | .ok (built, notices) =>
      let first : Built := ⟨(built.map fun s => s.fromFile file).toList, notices⟩
      (builder.buildBlocks file (index + 1) rest).map first.append

def buildFile (builder : Builder) (file : SourceFile) : Except CatalogError Built :=
  let blocks := file.blocks
  (builder.buildBlocks file 0 blocks).map fun built =>
    { built with notices := .fileBlocks file.path blocks.length :: built.notices }

/-- Build every block of every file. The first fault in the order of files and blocks counts. -/
def buildFiles (builder : Builder) : List SourceFile → Except CatalogError Built
  | [] => .ok {}
  | file :: rest =>
    match builder.buildFile file with
    | .error fault => .error fault
    | .ok first => (builder.buildFiles rest).map first.append

def catalog (builder : Builder) (files : List SourceFile) : Except CatalogError Built :=
  match builder.buildFiles files with
  | .error fault => .error fault
  | .ok built =>
    match resolveSections built.sections with
    | .error clash => .error (.collision clash)
    | .ok sections =>
      .ok ⟨sections, .catalogBuilt built.sections.length files.length :: built.notices⟩

/-! ## The log -/

/-- What is told while blocks are built one after the other, up to the first fault. -/
def blocksLog (builder : Builder) : List Block → List Notice
  | [] => []
  | block :: rest =>
    builder.blockLog block ++
      match builder.build block with
      | .error _ => []
      | .ok _ => builder.blocksLog rest

/-- What is told while a catalogue is made, whether it comes about or not. The blocks of all files
are counted before the first one is built, and the sections before they are numbered. The order is
that of a single worker; several of them mix what they tell. -/
def log (builder : Builder) (files : List SourceFile) : List Notice :=
  (files.map fun file => .fileBlocks file.path file.blocks.length) ++
    builder.blocksLog (files.flatMap SourceFile.blocks) ++
      match builder.buildFiles files with
      | .error _ => []
      | .ok built => [.catalogBuilt built.sections.length files.length]

end Builder

end StyleCatalog
