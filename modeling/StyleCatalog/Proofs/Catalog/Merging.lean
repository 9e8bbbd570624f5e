import StyleCatalog.Catalog.Basic

/-! # Merging the sections of files

Building goes through the files, and through the blocks of each, in order. Either every block
builds, and the sections stand one after the other as their blocks do, or nothing is built and the
first block at fault is named by its file and its place there.
-/

namespace StyleCatalog

/-- Something holds of all items, or there is a first one that it does not hold of. -/
theorem forall_or_exists_first {α : Type} (p : α → Prop) (items : List α) :
    (∀ item ∈ items, p item) ∨
      ∃ before item after, items = before ++ item :: after ∧ (∀ earlier ∈ before, p earlier) ∧
        ¬p item := by
  induction items with
  | nil => exact .inl (List.forall_mem_nil _)
  | cons item rest induction =>
      by_cases here : p item
      · rcases induction with all | ⟨before, failing, after, rfl, earlier, fails⟩
        · exact .inl (List.forall_mem_cons.mpr ⟨here, all⟩)
        · exact .inr ⟨item :: before, failing, after, rfl,
            List.forall_mem_cons.mpr ⟨here, earlier⟩, fails⟩
      · exact .inr ⟨[], item, rest, rfl, List.forall_mem_nil _, here⟩

/-- One build after another. The first fault counts. -/
def thenBuild (first later : Except CatalogError Built) : Except CatalogError Built :=
  match first with
  | .error fault => .error fault
  | .ok built => later.map built.append

theorem thenBuild_ok (first later : Built) :
    thenBuild (.ok first) (.ok later) = .ok (first.append later) := rfl

theorem empty_thenBuild (later : Except CatalogError Built) : thenBuild (.ok {}) later = later := by
  cases later <;> rfl

theorem thenBuild_assoc (first second third : Except CatalogError Built) :
    thenBuild (thenBuild first second) third = thenBuild first (thenBuild second third) := by
  cases first with
  | error fault => rfl
  | ok a =>
      cases second with
      | error fault => rfl
      | ok b =>
          cases third with
          | error fault => rfl
          | ok c =>
              simp only [thenBuild_ok, Built.append, List.append_assoc]

namespace Builder

variable (builder : Builder)

/-- A block that is not at fault. It need not give a section. -/
def Builds (block : Block) : Prop := ∃ result, builder.build block = .ok result

/-- The section that a block gives. -/
def sectionOf? (block : Block) : Option Section :=
  match builder.build block with
  | .ok (built, _) => built
  | .error _ => none

/-- The sections that the blocks of a file give, each with its file. -/
def sectionsIn (file : SourceFile) (blocks : List Block) : List Section :=
  blocks.filterMap fun block =>
    (builder.sectionOf? block).map fun s => { s with file := file.path, dialect := file.dialect }

/-- The first block at fault comes after those that `passed`. -/
def FailsAfter (blocks passed : List Block) (cause : CommentError) : Prop :=
  ∃ block rest, blocks = passed ++ block :: rest ∧ (∀ other ∈ passed, builder.Builds other) ∧
    builder.build block = .error cause

variable {builder} {file : SourceFile} {block : Block} {blocks passed : List Block}
  {cause : CommentError}

/-! ## One block -/

theorem buildBlocks_cons_of_error (failed : builder.build block = .error cause) (index : Nat)
    (rest : List Block) :
    builder.buildBlocks file index (block :: rest) = .error (.block file.path index cause) := by
  rw [buildBlocks, failed]

theorem buildBlocks_cons_of_ok {built : Option Section} {notices : List Notice}
    (success : builder.build block = .ok (built, notices)) (index : Nat) (rest : List Block) :
    builder.buildBlocks file index (block :: rest) =
      thenBuild (.ok ⟨builder.sectionsIn file [block], notices⟩)
        (builder.buildBlocks file (index + 1) rest) := by
  have here : builder.sectionsIn file [block] = (built.map fun s => s.fromFile file).toList := by
    rw [sectionsIn, List.filterMap_cons, sectionOf?, success]
    cases built <;> rfl
  rw [buildBlocks, success, here]
  rfl

/-! ## The blocks of a file -/

theorem buildBlocks_append (builder : Builder) (file : SourceFile) (index : Nat)
    (blocks others : List Block) :
    builder.buildBlocks file index (blocks ++ others) =
      thenBuild (builder.buildBlocks file index blocks)
        (builder.buildBlocks file (index + blocks.length) others) := by
  induction blocks generalizing index with
  | nil => exact (empty_thenBuild _).symm
  | cons block rest induction =>
      rw [List.cons_append]
      cases outcome : builder.build block with
      | error cause =>
          rw [buildBlocks_cons_of_error outcome, buildBlocks_cons_of_error outcome]
          rfl
      | ok result =>
          rw [buildBlocks_cons_of_ok outcome, buildBlocks_cons_of_ok outcome, induction,
            thenBuild_assoc, List.length_cons, Nat.add_right_comm, Nat.add_assoc]

theorem sectionsIn_append (builder : Builder) (file : SourceFile) (blocks others : List Block) :
    builder.sectionsIn file (blocks ++ others) =
      builder.sectionsIn file blocks ++ builder.sectionsIn file others :=
  List.filterMap_append

theorem buildBlocks_of_builds (file : SourceFile)
    (builds : ∀ block ∈ blocks, builder.Builds block) (index : Nat) :
    ∃ notices, builder.buildBlocks file index blocks =
      .ok ⟨builder.sectionsIn file blocks, notices⟩ := by
  induction blocks generalizing index with
  | nil => exact ⟨[], rfl⟩
  | cons block rest induction =>
      rw [List.forall_mem_cons] at builds
      rcases builds.1 with ⟨⟨built, told⟩, success⟩
      rcases induction builds.2 (index + 1) with ⟨notices, later⟩
      refine ⟨told ++ notices, ?_⟩
      rw [buildBlocks_cons_of_ok success, later, thenBuild_ok, Built.append, ← sectionsIn_append,
        List.singleton_append]

theorem buildBlocks_of_failsAfter (fails : builder.FailsAfter blocks passed cause) (index : Nat) :
    builder.buildBlocks file index blocks =
      .error (.block file.path (index + passed.length) cause) := by
  rcases fails with ⟨block, rest, rfl, builds, failed⟩
  rcases buildBlocks_of_builds file builds index with ⟨notices, before⟩
  rw [buildBlocks_append, before, buildBlocks_cons_of_error failed]
  rfl

/-- Either all blocks build, or there is a first one that does not. -/
theorem builds_or_failsAfter (builder : Builder) (blocks : List Block) :
    (∀ block ∈ blocks, builder.Builds block) ∨
      ∃ passed cause, builder.FailsAfter blocks passed cause := by
  rcases forall_or_exists_first builder.Builds blocks with
    all | ⟨passed, block, rest, rfl, builds, fails⟩
  · exact .inl all
  · cases outcome : builder.build block with
    | ok result => exact absurd ⟨result, outcome⟩ fails
    | error cause => exact .inr ⟨passed, cause, block, rest, rfl, builds, outcome⟩

theorem buildFile_of_builds (builds : ∀ block ∈ file.blocks, builder.Builds block) :
    ∃ notices, builder.buildFile file = .ok ⟨builder.sectionsIn file file.blocks, notices⟩ := by
  rcases buildBlocks_of_builds file builds 0 with ⟨notices, built⟩
  exact ⟨.fileBlocks file.path file.blocks.length :: notices, by rw [buildFile, built]; rfl⟩

theorem buildFile_of_failsAfter (fails : builder.FailsAfter file.blocks passed cause) :
    builder.buildFile file = .error (.block file.path passed.length cause) := by
  rw [buildFile, buildBlocks_of_failsAfter fails, Nat.zero_add]
  rfl

theorem buildFiles_cons (builder : Builder) (file : SourceFile) (files : List SourceFile) :
    builder.buildFiles (file :: files) =
      thenBuild (builder.buildFile file) (builder.buildFiles files) := by
  rw [buildFiles]
  cases builder.buildFile file <;> rfl

theorem buildFiles_append (builder : Builder) (files others : List SourceFile) :
    builder.buildFiles (files ++ others) =
      thenBuild (builder.buildFiles files) (builder.buildFiles others) := by
  induction files with
  | nil => exact (empty_thenBuild _).symm
  | cons file rest induction =>
      rw [List.cons_append, buildFiles_cons, induction, buildFiles_cons, thenBuild_assoc]

theorem buildFiles_of_builds {files : List SourceFile}
    (builds : ∀ file ∈ files, ∀ block ∈ file.blocks, builder.Builds block) :
    ∃ notices, builder.buildFiles files =
      .ok ⟨files.flatMap fun file => builder.sectionsIn file file.blocks, notices⟩ := by
  induction files with
  | nil => exact ⟨[], rfl⟩
  | cons file rest induction =>
      rw [List.forall_mem_cons] at builds
      rcases buildFile_of_builds builds.1 with ⟨told, first⟩
      rcases induction builds.2 with ⟨notices, later⟩
      exact ⟨told ++ notices, by rw [buildFiles_cons, first, later, thenBuild_ok]; rfl⟩

theorem buildFiles_of_failsAfter {before : List SourceFile}
    (builds : ∀ earlier ∈ before, ∀ block ∈ earlier.blocks, builder.Builds block)
    (fails : builder.FailsAfter file.blocks passed cause) (after : List SourceFile) :
    builder.buildFiles (before ++ file :: after) =
      .error (.block file.path passed.length cause) := by
  rcases buildFiles_of_builds builds with ⟨notices, built⟩
  rw [buildFiles_append, built, buildFiles_cons, buildFile_of_failsAfter fails]
  rfl

/-- Either all blocks of all files build, or there is a first file with a block at fault. -/
theorem all_build_or_first_fails (builder : Builder) (files : List SourceFile) :
    (∀ file ∈ files, ∀ block ∈ file.blocks, builder.Builds block) ∨
      ∃ before file after passed cause, files = before ++ file :: after ∧
        (∀ earlier ∈ before, ∀ block ∈ earlier.blocks, builder.Builds block) ∧
        builder.FailsAfter file.blocks passed cause := by
  rcases forall_or_exists_first (fun file => ∀ block ∈ file.blocks, builder.Builds block) files with
    all | ⟨before, file, after, rfl, builds, fails⟩
  · exact .inl all
  · rcases builder.builds_or_failsAfter file.blocks with here | ⟨passed, cause, failsAfter⟩
    · exact absurd here fails
    · exact .inr ⟨before, file, after, passed, cause, rfl, builds, failsAfter⟩

end Builder

end StyleCatalog
