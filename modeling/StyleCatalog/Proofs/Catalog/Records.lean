import StyleCatalog.Command.Run
import StyleCatalog.Proofs.Catalog.FileOrder
import StyleCatalog.Proofs.Section.Merging
import StyleCatalog.Proofs.Section.Record

/-! # Records of a catalogue

Whatever parameters its author writes, a built section keeps clear of the standard keys, and it
stays so through a whole catalogue. The texts of its record can therefore be read back.
-/

namespace StyleCatalog

/-! ## Names of extra parameters -/

namespace Section

variable {s merged : Section} {parameter : Parameter}

instance (s : Section) : Decidable s.AvoidsStandardKeys :=
  inferInstanceAs (Decidable (∀ name ∈ s.extras.names, name ∉ standardKeys))

theorem avoidsStandardKeys_of_empty (empty : s.extras = .empty) : s.AvoidsStandardKeys := by
  intro name member
  rw [empty] at member
  cases member

theorem AvoidsStandardKeys.merges (avoids : s.AvoidsStandardKeys)
    (merges : s.Merges parameter merged) : merged.AvoidsStandardKeys := by
  cases merges with
  | @extra name value isExtra =>
      intro other member
      rcases List.mem_map.mp member with ⟨entry, inEntries, rfl⟩
      rcases Extras.mem_put inEntries with rfl | old
      · exact isExtra
      · exact avoids entry.1 (List.mem_map_of_mem old)
  | _ => exact avoids

theorem AvoidsStandardKeys.mergesAll {parameters : List Parameter} (avoids : s.AvoidsStandardKeys)
    (merges : s.MergesAll parameters merged) : merged.AvoidsStandardKeys := by
  induction merges with
  | nil => exact avoids
  | cons first _ induction => exact induction (avoids.merges first)

theorem AvoidsStandardKeys.numberedIn (avoids : s.AvoidsStandardKeys) (hierarchy : Hierarchy) :
    (s.numberedIn hierarchy).AvoidsStandardKeys := by
  rw [Section.numberedIn]
  split
  · exact avoids
  · exact avoids

end Section

namespace Builder

variable {builder : Builder}

theorem avoidsStandardKeys_of_build {block : Block} {s : Section} {notices : List Notice}
    (success : builder.build block = .ok (some s, notices)) : s.AvoidsStandardKeys := by
  rcases exists_of_build success with ⟨entry, others, -, merges⟩
  exact (Section.avoidsStandardKeys_of_empty rfl).mergesAll merges

/-! ## Where sections come from -/

theorem exists_block_of_buildBlocks {file : SourceFile} {blocks : List Block} {index : Nat}
    {built : Built} (success : builder.buildBlocks file index blocks = .ok built) :
    ∀ s ∈ built.sections, ∃ block ∈ blocks, ∃ origin notices,
      builder.build block = .ok (some origin, notices) ∧ s = origin.fromFile file := by
  induction blocks generalizing index built with
  | nil =>
      cases success
      exact List.forall_mem_nil _
  | cons block rest induction =>
      rw [buildBlocks] at success
      split at success
      · cases success
      · rename_i first notices here
        rcases exists_of_map_eq_ok success with ⟨later, laterBuilt, rfl⟩
        intro s member
        rcases List.mem_append.mp member with inFirst | inLater
        · rw [Option.mem_toList, Option.map_eq_some_iff] at inFirst
          rcases inFirst with ⟨origin, rfl, rfl⟩
          exact ⟨block, List.mem_cons_self, origin, notices, here, rfl⟩
        · rcases induction laterBuilt s inLater with ⟨other, inRest, found⟩
          exact ⟨other, List.mem_cons_of_mem block inRest, found⟩

theorem exists_block_of_buildFiles {files : List SourceFile} {built : Built}
    (success : builder.buildFiles files = .ok built) :
    ∀ s ∈ built.sections, ∃ file ∈ files, ∃ block ∈ file.blocks, ∃ origin notices,
      builder.build block = .ok (some origin, notices) ∧ s = origin.fromFile file := by
  induction files generalizing built with
  | nil =>
      cases success
      exact List.forall_mem_nil _
  | cons file rest induction =>
      rcases buildFiles_cons_eq_ok_iff.mp success with ⟨first, later, firstBuilt, laterBuilt, rfl⟩
      rcases exists_of_map_eq_ok firstBuilt with ⟨blocks, blocksBuilt, rfl⟩
      intro s member
      rcases List.mem_append.mp member with inFirst | inLater
      · have found := exists_block_of_buildBlocks blocksBuilt s inFirst
        exact ⟨file, List.mem_cons_self, found⟩
      · rcases induction laterBuilt s inLater with ⟨other, inRest, found⟩
        exact ⟨other, List.mem_cons_of_mem file inRest, found⟩

theorem avoidsStandardKeys_of_buildFiles {files : List SourceFile} {built : Built}
    (success : builder.buildFiles files = .ok built) :
    ∀ s ∈ built.sections, s.AvoidsStandardKeys := by
  intro s member
  rcases exists_block_of_buildFiles success s member with
    ⟨file, -, block, -, origin, notices, blockBuilt, rfl⟩
  change origin.AvoidsStandardKeys
  exact avoidsStandardKeys_of_build blockBuilt

theorem avoidsStandardKeys_of_catalog {files : List SourceFile} {built : Built}
    (success : builder.catalog files = .ok built) :
    ∀ s ∈ built.sections, s.AvoidsStandardKeys := by
  rcases catalog_eq_ok_iff.mp success with ⟨merged, resolved, mergedOk, outcome, rfl⟩
  intro s member
  rw [(resolveSections_eq_ok_iff.mp outcome).2] at member
  rcases List.mem_map.mp member with ⟨origin, inSorted, rfl⟩
  have inMerged := mem_sortSections.mp inSorted
  exact (avoidsStandardKeys_of_buildFiles mergedOk origin inMerged).numberedIn _

end Builder

/-! ## Reading records back -/

def Section.read? (t : Text) : Option Section := (Json.parse? t).bind Section.ofJson?

/-- The sections of a catalogue that was written as one text. -/
def readCatalog? (t : Text) : Option (List Section) :=
  ((Json.parse? t).bind Json.items?).bind (readAll? Section.ofJson?)

theorem Section.AvoidsStandardKeys.read?_of_reads {s : Section} {t : Text}
    (avoids : s.AvoidsStandardKeys) (reads : s.toJson.Reads t) : Section.read? t = some s := by
  have parsed := reads.parse?_append Json.isGaps_nil
  rw [List.append_nil] at parsed
  rw [Section.read?, parsed, Option.bind_some, avoids.ofJson?_toJson]

theorem proper_sections {sections : List Section} (avoid : ∀ s ∈ sections, s.AvoidsStandardKeys) :
    (Json.array (sections.map Section.toJson)).Proper :=
  .array (List.forall_mem_map.mpr fun s member => (avoid s member).toJson_proper)

theorem readCatalog?_render (arguments : Arguments) {sections : List Section}
    (avoid : ∀ s ∈ sections, s.AvoidsStandardKeys) {blanks : Text} (blank : Json.IsGaps blanks) :
    readCatalog? (arguments.render sections ++ blanks) = some sections := by
  have proper := proper_sections avoid
  have reads : (Json.array (sections.map Section.toJson)).Reads (arguments.render sections) := by
    rw [Arguments.render]
    split
    · exact proper.reads_compact
    · exact proper.reads_pretty 0
  rw [readCatalog?, reads.parse?_append blank, Option.bind_some, Json.items?, Option.bind_some]
  exact readAll?_map fun s member => (avoid s member).ofJson?_toJson

/-- A section whose extra parameters avoid the standard keys has a record without repeated keys, and
both layouts of it read back; so does a catalogue as the command prints or writes it. All sections
that are built are of this kind. -/
theorem records_read_back :
    (∀ s : Section, s.AvoidsStandardKeys →
      s.toJson.Proper ∧ Section.read? s.toJson.compact = some s ∧
        Section.read? s.toJson.prettyText = some s) ∧
    (∀ (arguments : Arguments) (sections : List Section),
      (∀ s ∈ sections, s.AvoidsStandardKeys) → ∀ blanks : Text, Json.IsGaps blanks →
        readCatalog? (arguments.render sections ++ blanks) = some sections) ∧
    (∀ (builder : Builder) (block : Block) (s : Section) (notices : List Notice),
      builder.build block = .ok (some s, notices) → s.AvoidsStandardKeys) ∧
    (∀ (builder : Builder) (files : List SourceFile) (built : Built),
      builder.buildFiles files = .ok built → ∀ s ∈ built.sections, s.AvoidsStandardKeys) ∧
    ∀ (builder : Builder) (files : List SourceFile) (built : Built),
      builder.catalog files = .ok built → ∀ s ∈ built.sections, s.AvoidsStandardKeys := by
  refine ⟨?_, ?_, ?_, ?_, ?_⟩
  · intro s avoids
    have proper := avoids.toJson_proper
    exact ⟨proper, avoids.read?_of_reads proper.reads_compact,
      avoids.read?_of_reads (proper.reads_pretty 0)⟩
  · intro arguments sections avoid blanks blank
    exact readCatalog?_render arguments avoid blank
  · intro builder block s notices success
    exact Builder.avoidsStandardKeys_of_build success
  · intro builder files built success
    exact Builder.avoidsStandardKeys_of_buildFiles success
  · intro builder files built success
    exact Builder.avoidsStandardKeys_of_catalog success

/-- A section whose texts need every kind of escape. -/
def sampleRecord : Section where
  header := "\"Tabs\" \\ \t\r\n\x08\x0c\x01\x7f é 🎨".toList
  description := []
  modifiers :=
    [{ id := 1, name := ":hover".toList, description := [], className := [],
       markup := some "\n".toList },
      { id := 0xFFFFFFFFFFFFFFFF, name := [], description := [], className := [], markup := none }]
  experimental := true
  reference := "1".toList
  stringReference := some "Forms".toList
  weight := ⟨-2147483648, by decide, by decide⟩
  css := some []
  extras := (Extras.empty.insert "theme".toList "\x7b\x7d".toList).insert [] ":".toList

theorem sampleRecord_reads_back :
    Section.read? sampleRecord.toJson.compact = some sampleRecord ∧
      readCatalog? (Arguments.render {} [sampleRecord, {}] ++ ['\n']) =
        some [sampleRecord, {}] ∧
      ∀ s ∈ sampleCatalog.sections, s.AvoidsStandardKeys :=
  ⟨(records_read_back.1 sampleRecord (by decide)).2.1,
    records_read_back.2.1 {} [sampleRecord, {}] (by decide) ['\n'] (Json.isGaps_newLine 0),
    records_read_back.2.2.2.2 _ _ _ catalog_sampleFiles⟩

end StyleCatalog
