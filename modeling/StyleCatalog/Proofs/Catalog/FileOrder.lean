import StyleCatalog.Catalog.Basic
import StyleCatalog.Proofs.Reference.Resolution

/-! # The order of files

The order in which files are read decides nothing about a catalogue that can be made. Building a
permutation of the files permutes the sections, and a set of sections that resolves has one
resolution, whatever order it came in.
-/

namespace StyleCatalog

/-! ## Sections -/

theorem resolveSections_eq_ok_of_perm {sections others resolved : List Section}
    (permuted : sections.Perm others) (success : resolveSections sections = .ok resolved) :
    resolveSections others = .ok resolved := by
  have distinct := (resolveSections_eq_ok_iff.mp success).1.1
  rw [resolveSections, ← sortSections_eq_of_perm permuted distinct]
  exact success

/-! ## Files -/

namespace Builder

variable {builder : Builder} {files others : List SourceFile}

theorem buildFiles_cons_eq_ok_iff {file : SourceFile} {built : Built} :
    builder.buildFiles (file :: files) = .ok built ↔
      ∃ first later, builder.buildFile file = .ok first ∧
        builder.buildFiles files = .ok later ∧ built = first.append later := by
  rw [buildFiles]
  cases builder.buildFile file with
  | error fault => simp
  | ok first =>
      cases builder.buildFiles files with
      | error fault => simp [Except.map]
      | ok later => simp [Except.map, eq_comm]

theorem catalog_eq_ok_iff {built : Built} :
    builder.catalog files = .ok built ↔
      ∃ merged resolved, builder.buildFiles files = .ok merged ∧
        resolveSections merged.sections = .ok resolved ∧
        built = ⟨resolved, .catalogBuilt merged.sections.length files.length ::
          merged.notices⟩ := by
  rw [catalog]
  cases builder.buildFiles files with
  | error fault => simp
  | ok merged =>
      cases outcome : resolveSections merged.sections with
      | error clash => simp [outcome]
      | ok resolved => simp [outcome, eq_comm]

/-- The sections of files in another order are the same sections in another order. -/
theorem buildFiles_perm (permuted : files.Perm others) {built : Built}
    (success : builder.buildFiles files = .ok built) :
    ∃ rebuilt, builder.buildFiles others = .ok rebuilt ∧
      built.sections.Perm rebuilt.sections := by
  induction permuted generalizing built with
  | nil => exact ⟨built, success, .refl _⟩
  | cons file permuted induction =>
      rcases buildFiles_cons_eq_ok_iff.mp success with ⟨first, later, firstBuilt, laterBuilt, rfl⟩
      rcases induction laterBuilt with ⟨rebuilt, rebuiltOk, rest⟩
      refine ⟨first.append rebuilt, ?_, rest.append_left first.sections⟩
      exact buildFiles_cons_eq_ok_iff.mpr ⟨first, rebuilt, firstBuilt, rebuiltOk, rfl⟩
  | swap file other rest =>
      rcases buildFiles_cons_eq_ok_iff.mp success with ⟨first, later, firstBuilt, laterBuilt, rfl⟩
      rcases buildFiles_cons_eq_ok_iff.mp laterBuilt with
        ⟨second, last, secondBuilt, lastBuilt, rfl⟩
      have tail := buildFiles_cons_eq_ok_iff.mpr ⟨first, last, firstBuilt, lastBuilt, rfl⟩
      refine ⟨second.append (first.append last), ?_, ?_⟩
      · exact buildFiles_cons_eq_ok_iff.mpr ⟨second, _, secondBuilt, tail, rfl⟩
      · simp only [Built.append, ← List.append_assoc]
        exact List.perm_append_comm.append_right last.sections
  | trans _ _ firstInduction secondInduction =>
      rcases firstInduction success with ⟨between, betweenBuilt, toBetween⟩
      rcases secondInduction betweenBuilt with ⟨rebuilt, rebuiltOk, fromBetween⟩
      exact ⟨rebuilt, rebuiltOk, toBetween.trans fromBetween⟩

end Builder

/-- The order of the input does not show in a result. Sections in any order resolve to one list, and
files in any order give one list of sections. -/
theorem catalog_sections_of_perm :
    (∀ sections others : List Section, sections.Perm others → ∀ resolved,
      resolveSections sections = .ok resolved ↔ resolveSections others = .ok resolved) ∧
    ∀ (builder : Builder) (files others : List SourceFile), files.Perm others → ∀ built,
      builder.catalog files = .ok built →
        ∃ rebuilt, builder.catalog others = .ok rebuilt ∧ rebuilt.sections = built.sections := by
  constructor
  · intro sections others permuted resolved
    exact ⟨resolveSections_eq_ok_of_perm permuted, resolveSections_eq_ok_of_perm permuted.symm⟩
  · intro builder files others permuted built success
    rcases Builder.catalog_eq_ok_iff.mp success with ⟨merged, resolved, mergedOk, outcome, rfl⟩
    rcases Builder.buildFiles_perm permuted mergedOk with ⟨remerged, remergedOk, sameSections⟩
    have again := resolveSections_eq_ok_of_perm sameSections outcome
    exact ⟨_, Builder.catalog_eq_ok_iff.mpr ⟨remerged, resolved, remergedOk, again, rfl⟩, rfl⟩

/-- Two files that are given in the reverse of their display order. -/
def sampleFiles : List SourceFile :=
  [⟨['b'], "/* B\n\nStyleguide b */".toList⟩, ⟨['a'], "/* A\n\nStyleguide a */".toList⟩]

def sampleCatalog : Built where
  sections :=
    [{ header := ['A'], reference := ['1'], stringReference := some ['a'], file := ['a'] },
      { header := ['B'], reference := ['2'], stringReference := some ['b'], file := ['b'] }]
  notices := [.catalogBuilt 2 2, .fileBlocks ['b'] 1, .fileBlocks ['a'] 1]

theorem catalog_sampleFiles :
    (Builder.mk defaultMarker Renderer.plain).catalog sampleFiles = .ok sampleCatalog := by
  have merged : (Builder.mk defaultMarker Renderer.plain).buildFiles sampleFiles =
      .ok ⟨[{ header := ['B'], reference := ['b'], file := ['b'] },
        { header := ['A'], reference := ['a'], file := ['a'] }],
        [.fileBlocks ['b'] 1, .fileBlocks ['a'] 1]⟩ := by rfl
  refine Builder.catalog_eq_ok_iff.mpr ⟨_, _, merged, ?_, rfl⟩
  rw [resolveSections_of_sorted (.swap _ _ _) (by decide +kernel) (by decide +kernel)]
  rfl

theorem sampleFiles_reversed :
    ∃ rebuilt,
      (Builder.mk defaultMarker Renderer.plain).catalog sampleFiles.reverse = .ok rebuilt ∧
        rebuilt.sections = sampleCatalog.sections :=
  catalog_sections_of_perm.2 _ _ _ (List.reverse_perm sampleFiles).symm _ catalog_sampleFiles

end StyleCatalog
