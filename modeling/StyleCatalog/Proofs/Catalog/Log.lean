import StyleCatalog.Proofs.Catalog.FileOrder
import StyleCatalog.Proofs.Catalog.Merging

/-! # The log of a catalogue

A catalogue that comes about was told what its log tells, up to the order: `Builder.log_perm`. A
fault does not take back what was told about the blocks before it: `Builder.log_of_failsAfter`.
-/

namespace StyleCatalog

theorem Section.mergeLog_of_mergeAll {s merged : Section} {parameters : List Parameter}
    {notices : List Notice} (success : s.mergeAll parameters = .ok (merged, notices)) :
    s.mergeLog parameters = notices := by
  induction parameters generalizing s notices with
  | nil =>
      cases success
      rfl
  | cons parameter rest induction =>
      rw [mergeAll] at success
      cases step : s.merge parameter with
      | error fault =>
          rw [step] at success
          cases success
      | ok next =>
          rw [step] at success
          rcases exists_of_map_eq_ok success with ⟨⟨_, told⟩, more, same⟩
          cases same
          simp only [mergeLog, step, induction more]

namespace Builder

variable {builder : Builder} {blocks passed : List Block} {cause : CommentError}

/-! ## Blocks -/

theorem blockLog_of_build {block : Block} {built : Option Section} {notices : List Notice}
    (success : builder.build block = .ok (built, notices)) : builder.blockLog block = notices := by
  rw [build] at success
  rw [blockLog]
  split at success
  · cases success
  · cases success
    rfl
  · rcases exists_of_map_eq_ok success with ⟨⟨merged, told⟩, mergedAll, same⟩
    cases same
    dsimp only
    rw [Section.mergeLog_of_mergeAll mergedAll]

theorem blocksLog_append (builds : ∀ block ∈ passed, builder.Builds block) (rest : List Block) :
    builder.blocksLog (passed ++ rest) = passed.flatMap builder.blockLog ++ builder.blocksLog rest := by
  induction passed with
  | nil => rfl
  | cons block more induction =>
      rw [List.forall_mem_cons] at builds
      rcases builds.1 with ⟨result, success⟩
      rw [List.cons_append, blocksLog, success]
      dsimp only
      rw [induction builds.2, List.flatMap_cons, List.append_assoc]

theorem blocksLog_of_builds (builds : ∀ block ∈ blocks, builder.Builds block) :
    builder.blocksLog blocks = blocks.flatMap builder.blockLog := by
  have whole := blocksLog_append builds []
  rwa [List.append_nil, blocksLog, List.append_nil] at whole

/-- The block at fault is the last that anything is told about. -/
theorem blocksLog_of_error {block : Block} (failed : builder.build block = .error cause)
    (rest : List Block) : builder.blocksLog (block :: rest) = builder.blockLog block := by
  rw [blocksLog, failed]
  exact List.append_nil _

/-! ## Files -/

theorem notices_of_buildBlocks {file : SourceFile} {index : Nat} {built : Built}
    (success : builder.buildBlocks file index blocks = .ok built) :
    built.notices = builder.blocksLog blocks := by
  induction blocks generalizing index built with
  | nil =>
      cases success
      rfl
  | cons block rest induction =>
      rw [buildBlocks] at success
      split at success
      · cases success
      · rename_i first notices here
        rcases exists_of_map_eq_ok success with ⟨later, laterBuilt, rfl⟩
        rw [blocksLog, here, blockLog_of_build here]
        exact congrArg (notices ++ ·) (induction laterBuilt)

theorem builds_of_buildFiles {files : List SourceFile} {built : Built}
    (success : builder.buildFiles files = .ok built) :
    ∀ file ∈ files, ∀ block ∈ file.blocks, builder.Builds block := by
  rcases builder.all_build_or_first_fails files with
    builds | ⟨before, file, after, passed, cause, rfl, builds, fails⟩
  · exact builds
  · rw [buildFiles_of_failsAfter builds fails] at success
    cases success

/-- The count of the blocks of a file. -/
def countBlocks (file : SourceFile) : Notice := .fileBlocks file.path file.blocks.length

theorem notices_of_buildFiles {files : List SourceFile} {built : Built}
    (success : builder.buildFiles files = .ok built) :
    built.notices =
      files.flatMap fun file => countBlocks file :: file.blocks.flatMap builder.blockLog := by
  have builds := builds_of_buildFiles success
  induction files generalizing built with
  | nil =>
      cases success
      rfl
  | cons file rest induction =>
      rw [List.forall_mem_cons] at builds
      rcases buildFiles_cons_eq_ok_iff.mp success with ⟨first, later, firstBuilt, laterBuilt, rfl⟩
      rcases exists_of_map_eq_ok firstBuilt with ⟨blocks, blocksBuilt, rfl⟩
      rw [List.flatMap_cons, ← induction laterBuilt builds.2, ← blocksLog_of_builds builds.1,
        ← notices_of_buildBlocks blocksBuilt]
      rfl

/-- The log of files that all build. -/
theorem log_of_buildFiles {files : List SourceFile} {built : Built}
    (success : builder.buildFiles files = .ok built) :
    builder.log files = files.map countBlocks ++
      files.flatMap (fun file => file.blocks.flatMap builder.blockLog) ++
        [.catalogBuilt built.sections.length files.length] := by
  have builds : ∀ block ∈ files.flatMap SourceFile.blocks, builder.Builds block := by
    intro block member
    rcases List.mem_flatMap.mp member with ⟨file, inFiles, inBlocks⟩
    exact builds_of_buildFiles success file inFiles block inBlocks
  rw [log, success, blocksLog_of_builds builds, List.flatMap_assoc]
  rfl

/-- A catalogue comes with what its log tells. The log tells it in another order: it counts the
blocks of all files first, and the sections last. -/
theorem log_perm {files : List SourceFile} {built : Built}
    (success : builder.catalog files = .ok built) : (builder.log files).Perm built.notices := by
  rcases catalog_eq_ok_iff.mp success with ⟨merged, resolved, mergedOk, -, rfl⟩
  rw [log_of_buildFiles mergedOk, notices_of_buildFiles mergedOk]
  exact (List.perm_append_singleton _ _).trans ((List.map_append_flatMap_perm files _ _).cons _)

/-- All blocks before the one at fault were told about, and that block up to its fault. -/
theorem log_of_failsAfter {before : List SourceFile} {file : SourceFile}
    (builds : ∀ earlier ∈ before, ∀ block ∈ earlier.blocks, builder.Builds block)
    (fails : builder.FailsAfter file.blocks passed cause) (after : List SourceFile) :
    ∃ block ∈ file.blocks, builder.build block = .error cause ∧
      builder.log (before ++ file :: after) = (before ++ file :: after).map countBlocks ++
        (before.flatMap SourceFile.blocks ++ passed ++ [block]).flatMap builder.blockLog := by
  have failed := buildFiles_of_failsAfter builds fails after
  rcases fails with ⟨block, rest, blocks, passedBuild, here⟩
  refine ⟨block, by simp [blocks], here, ?_⟩
  have allBuild : ∀ other ∈ before.flatMap SourceFile.blocks ++ passed, builder.Builds other := by
    rw [List.forall_mem_append, List.forall_mem_flatMap]
    exact ⟨builds, passedBuild⟩
  -- All blocks in one list, cut at the one at fault.
  have inOrder : (before ++ file :: after).flatMap SourceFile.blocks =
      (before.flatMap SourceFile.blocks ++ passed) ++
        block :: (rest ++ after.flatMap SourceFile.blocks) := by
    simp [blocks]
  have told : builder.blocksLog ((before ++ file :: after).flatMap SourceFile.blocks) =
      (before.flatMap SourceFile.blocks ++ passed ++ [block]).flatMap builder.blockLog := by
    rw [inOrder, blocksLog_append allBuild, blocksLog_of_error here,
      ← List.flatMap_singleton builder.blockLog block, ← List.flatMap_append]
  rw [log, failed, told]
  exact List.append_nil _

end Builder

end StyleCatalog
