import StyleCatalog.Proofs.Catalog.Agreement
import StyleCatalog.Proofs.Stylesheet.Characters

/-! # Line ends of source files

Files whose lines end in a carriage return and a line feed have the catalogue, or the fault, of the
files with plain line feeds. Only the code of the sections tells them apart:
`catalog_withReturns`.
-/

namespace StyleCatalog

open Text

/-- The file with a carriage return before each line feed. -/
def SourceFile.withReturns (file : SourceFile) : SourceFile :=
  { file with contents := file.contents.withReturns }

/-- The section with plain line feeds in its code. -/
def Section.withFeeds (s : Section) : Section := { s with css := s.css.map Text.withFeeds }

def Built.withFeeds (built : Built) : Built :=
  { built with sections := built.sections.map Section.withFeeds }

def Relabeling.withFeeds : Relabeling := { identity with css := Option.map Text.withFeeds }

/-! ## Code -/

theorem styleOf_withReturns (code : Option Text) :
    styleOf (code.map Text.withReturns) = (styleOf code).map Text.withReturns := by
  cases code with
  | none => rfl
  | some source =>
      simp only [styleOf, Option.map_some, Option.bind_some]
      rw [dropWhile_withReturns (by decide), dropEndWhile_withReturns (by decide)]
      simp only [List.isEmpty_iff, withReturns_eq_nil_iff]
      split <;> rfl

theorem exists_source_of_styleOf {code : Option Text} {css : Text}
    (style : styleOf code = some css) :
    ∃ source, code = some source ∧ css <:+: source := by
  rcases Option.bind_eq_some_iff.mp style with ⟨source, isCode, trimmed⟩
  refine ⟨source, isCode, ?_⟩
  dsimp only at trimmed
  split at trimmed
  · cases trimmed
  · cases trimmed
    exact (List.rdropWhile_prefix _ _).isInfix.trans (List.dropWhile_suffix _).isInfix

/-- The code of a section comes back from the code with carriage returns. -/
theorem map_withFeeds_styleOf {code : Option Text} (noReturn : ∀ source ∈ code, '\r' ∉ source) :
    (styleOf (code.map Text.withReturns)).map Text.withFeeds = styleOf code := by
  rw [styleOf_withReturns, Option.map_map]
  cases style : styleOf code with
  | none => rfl
  | some css =>
      rcases exists_source_of_styleOf style with ⟨source, isCode, within⟩
      have inStyle : '\r' ∉ css := fun inside => noReturn source isCode (within.subset inside)
      exact congrArg some (withFeeds_withReturns inStyle)

/-! ## Building -/

namespace Builder

theorem agreeOn_withReturns (builder : Builder) {block : Block} (inComment : '\r' ∉ block.comment)
    (inCode : ∀ source ∈ block.code, '\r' ∉ source) :
    AgreeOn builder builder .withFeeds .identity block.withReturns block := by
  have sameComment : block.withReturns.comment = block.comment := rfl
  apply agreeOn_of_drafts rfl sameComment
  · intro entry
    have style := map_withFeeds_styleOf inCode
    exact congrArg (fun css => { entry.toSection builder.render with css := css }) style
  · intro parameter member
    have noReturn : '\r' ∉ parameter.value := fun inside =>
      inComment (mem_of_mem_value member (by decide) inside)
    exact mergesAlike rfl rfl (congrArg some (withFeeds_of_not_mem noReturn))

theorem agreeOnFile_withReturns (builder : Builder) {file : SourceFile}
    (noReturn : '\r' ∉ file.contents) :
    AgreeOnFile builder builder .withFeeds .identity file.withReturns file := by
  refine ⟨rfl, ?_⟩
  have blocks : file.withReturns.blocks = file.blocks.map Block.withReturns :=
    blocksOf_withReturns noReturn file.dialect
  rw [blocks, List.forall₂_map_left_iff, List.forall₂_same]
  intro block member
  rcases exists_part_of_mem_blocksOf member with ⟨part, rfl, within⟩
  apply builder.agreeOn_withReturns
  · intro inText
    have inSource := Comment.mem_source_of_mem_text (by decide) inText
    exact noReturn (within.subset (List.mem_append_left _ inSource))
  · intro source isCode inside
    rw [part.eq_code_of_mem_block isCode] at inside
    exact noReturn (within.subset (List.mem_append_right _ inside))

end Builder

namespace Relabeling

theorem outcome_identity (result : Except CatalogError Built) :
    identity.outcome result = result := by
  cases result with
  | error fault => cases fault <;> rfl
  | ok built =>
      have same : built.sections.map identity.change = built.sections := List.map_id built.sections
      exact congrArg (fun sections => Except.ok (Built.mk sections built.notices)) same

theorem outcome_withFeeds (result : Except CatalogError Built) :
    withFeeds.outcome result = result.map Built.withFeeds := by
  cases result with
  | error fault => cases fault <;> rfl
  | ok built => rfl

end Relabeling

/-- Line ends do not matter. Files without carriage returns have the catalogue, the notices or the
fault that they have with a carriage return before each line feed, once the pairs in the code of the
sections are turned back. -/
theorem catalog_withReturns (builder : Builder) {files : List SourceFile}
    (noReturns : ∀ file ∈ files, '\r' ∉ file.contents) :
    (builder.catalog (files.map SourceFile.withReturns)).map Built.withFeeds =
      builder.catalog files := by
  have agree : List.Forall₂ (Builder.AgreeOnFile builder builder .withFeeds .identity)
      (files.map SourceFile.withReturns) files := by
    rw [List.forall₂_map_left_iff, List.forall₂_same]
    exact fun file member => builder.agreeOnFile_withReturns (noReturns file member)
  have sameNames : Relabeling.withFeeds.header = Relabeling.identity.header := rfl
  have same := Builder.catalog_agree sameNames agree
  rw [Relabeling.outcome_identity, Relabeling.outcome_withFeeds] at same
  exact same

def fedFiles : List SourceFile :=
  [⟨"a.scss".toList,
      "/**\n * Box\n *\n * sg-theme: dark\n *   blue\n *\n * Styleguide 1\n */\n\na,\nb\n".toList⟩,
    ⟨"b.less".toList, "// Pin\n//\n// sg-css: c,\n//   d\n//\n// Styleguide 2\nc,\nd".toList⟩]

theorem catalog_fedFiles_withReturns :
    (∀ file ∈ fedFiles, '\r' ∉ file.contents) ∧
      ((Builder.mk defaultMarker Renderer.plain).catalog
          (fedFiles.map SourceFile.withReturns)).map Built.withFeeds =
        (Builder.mk defaultMarker Renderer.plain).catalog fedFiles ∧
      ((Builder.mk defaultMarker Renderer.plain).buildFiles
          (fedFiles.map SourceFile.withReturns)).map (fun built => built.sections.map Section.css) =
        .ok [some "a,\r\nb".toList, some "c,\n  d".toList] := by
  have noReturns : ∀ file ∈ fedFiles, '\r' ∉ file.contents := by decide
  exact ⟨noReturns, catalog_withReturns _ noReturns, by decide +kernel⟩

end StyleCatalog
