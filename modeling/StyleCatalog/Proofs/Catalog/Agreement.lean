import Mathlib.Data.List.Forall2
import StyleCatalog.Proofs.Catalog.Merging
import StyleCatalog.Proofs.Reference.Relabeling

/-! # Builds that agree

Two builds are compared block by block. If the sections of corresponding blocks agree after a change
that resolution does not see, then so do the two catalogues, and so do their faults:
`Builder.catalog_agree`.
-/

namespace StyleCatalog

/-! ## Changing results -/

namespace Relabeling

variable (relabeling : Relabeling)

/-- The change that changes nothing. -/
def identity : Relabeling := ⟨id, id, id, id, rfl⟩

def block (result : Option Section × List Notice) : Option Section × List Notice :=
  (result.1.map relabeling.change, result.2)

def built (built : Built) : Built := ⟨built.sections.map relabeling.change, built.notices⟩

def fault : CatalogError → CatalogError
  | .block file index cause => .block file index cause
  | .collision collision => .collision (collision.relabel relabeling.header)

/-- What is left of a catalogue, or of its fault, after the change. -/
def outcome (result : Except CatalogError Built) : Except CatalogError Built :=
  (result.map relabeling.built).mapError relabeling.fault

theorem built_append (first later : Built) :
    relabeling.built (first.append later) =
      (relabeling.built first).append (relabeling.built later) := by
  simp only [built, Built.append, List.map_append]

theorem map_thenBuild (first later : Except CatalogError Built) :
    (thenBuild first later).map relabeling.built =
      thenBuild (first.map relabeling.built) (later.map relabeling.built) := by
  cases first with
  | error fault => rfl
  | ok a =>
      cases later with
      | error fault => rfl
      | ok b => exact congrArg Except.ok (relabeling.built_append a b)

end Relabeling

/-- What a build comes to once its sections are resolved. -/
def concluded (notices : List Notice) :
    Except Collision (List Section) → Except CatalogError Built
  | .error clash => .error (.collision clash)
  | .ok sections => .ok ⟨sections, notices⟩

theorem Relabeling.outcome_concluded (relabeling : Relabeling) (notices : List Notice)
    (resolved : Except Collision (List Section)) :
    relabeling.outcome (concluded notices resolved) =
      concluded notices ((resolved.map (List.map relabeling.change)).mapError
        (Collision.relabel relabeling.header)) := by
  cases resolved <;> rfl

theorem Builder.catalog_of_buildFiles {builder : Builder} {files : List SourceFile} {built : Built}
    (success : builder.buildFiles files = .ok built) :
    builder.catalog files =
      concluded (.catalogBuilt built.sections.length files.length :: built.notices)
        (resolveSections built.sections) := by
  rw [catalog, success]
  cases outcome : resolveSections built.sections <;> simp only [outcome, concluded]

/-! ## Two blocks -/

section Blocks

variable {left right : Relabeling}

/-- A parameter keeps sections in agreement. -/
def MergesAlike (left right : Relabeling) (parameter : Parameter) : Prop :=
  ∀ s t : Section, left.change s = right.change t →
    (s.merge parameter).map left.change = (t.merge parameter).map right.change

theorem map_ite_eq_map_ite {α β γ ε : Type} {condition : Prop} [Decidable condition]
    {f : α → γ} {g : β → γ} {a b : Except ε α} {c d : Except ε β} (yes : a.map f = c.map g)
    (no : b.map f = d.map g) :
    (if condition then a else b).map f = (if condition then c else d).map g := by
  split
  · exact yes
  · exact no

theorem map_map_eq_map_map {α β γ δ ε : Type} {result : Except ε α} {f : α → β} {g : α → γ}
    {f' : β → δ} {g' : γ → δ} (same : ∀ a, f' (f a) = g' (g a)) :
    (result.map f).map f' = (result.map g).map g' := by
  cases result with
  | error fault => rfl
  | ok a => exact congrArg Except.ok (same a)

/-- Parameters keep sections in agreement if the changes agree on the texts that they set. -/
theorem mergesAlike {parameter : Parameter}
    (header : left.header parameter.value = right.header parameter.value)
    (description : left.description parameter.value = right.description parameter.value)
    (css : left.css (some parameter.value) = right.css (some parameter.value)) :
    MergesAlike left right parameter := by
  intro s t same
  have fields := Section.mk.inj same
  rw [Section.merge, Section.merge]
  apply map_ite_eq_map_ite
  · exact congrArg Except.ok same
  apply map_ite_eq_map_ite
  · simp only [Except.map, Relabeling.change, fields, header]
  apply map_ite_eq_map_ite
  · simp only [Except.map, Relabeling.change, fields, description]
  apply map_ite_eq_map_ite
  · simp only [Except.map, Relabeling.change, fields]
  apply map_ite_eq_map_ite
  · simp only [Except.map, Relabeling.change, fields]
  apply map_ite_eq_map_ite
  · simp only [Except.map, Relabeling.change, fields, css]
  apply map_ite_eq_map_ite
  · exact map_map_eq_map_map fun weight => by simp only [Relabeling.change, fields]
  apply map_ite_eq_map_ite
  · exact map_map_eq_map_map fun flag => by simp only [Relabeling.change, fields]
  apply map_ite_eq_map_ite
  · exact map_map_eq_map_map fun flag => by simp only [Relabeling.change, fields]
  · simp only [Except.map, Relabeling.change, fields]

theorem mergeNotices_agree {s t : Section} (same : left.change s = right.change t)
    (parameter : Parameter) : s.mergeNotices parameter = t.mergeNotices parameter := by
  have fields := Section.mk.inj same
  simp only [Section.mergeNotices, fields]

theorem mergeAll_agree {parameters : List Parameter}
    (alike : ∀ parameter ∈ parameters, MergesAlike left right parameter) {s t : Section}
    (same : left.change s = right.change t) :
    (s.mergeAll parameters).map (fun result => (left.change result.1, result.2)) =
      (t.mergeAll parameters).map fun result => (right.change result.1, result.2) := by
  induction parameters generalizing s t with
  | nil => simp only [Section.mergeAll, Except.map, same]
  | cons parameter rest induction =>
      rw [List.forall_mem_cons] at alike
      rw [Section.mergeAll, Section.mergeAll, mergeNotices_agree same]
      rcases cases_of_map_eq_map (alike.1 s t same) with
        ⟨fault, failed, otherFailed⟩ | ⟨merged, otherMerged, success, otherSuccess, sameMerged⟩
      · rw [failed, otherFailed]
        rfl
      · rw [success, otherSuccess]
        rcases cases_of_map_eq_map (induction alike.2 sameMerged) with
          ⟨fault, failed, otherFailed⟩ | ⟨last, otherLast, walked, otherWalked, sameLast⟩
        · simp only [failed, otherFailed, Except.map]
        · have parts := Prod.mk.inj sameLast
          simp only [walked, otherWalked, Except.map, parts.1, parts.2]

namespace Builder

variable {first second : Builder}

/-- Two blocks give one result, up to the changes. -/
def AgreeOn (first second : Builder) (left right : Relabeling) (block other : Block) : Prop :=
  (first.build block).map left.block = (second.build other).map right.block

/-- Blocks with one comment agree if the sections drafted from its entries do and every parameter
keeps them so. -/
theorem agreeOn_of_drafts {block other : Block} (sameMarker : first.marker = second.marker)
    (sameComment : block.comment = other.comment)
    (drafts : ∀ entry : Entry,
      left.change { entry.toSection first.render with css := styleOf block.code } =
        right.change { entry.toSection second.render with css := styleOf other.code })
    (alike : ∀ parameter ∈ parameters second.marker other.comment,
      MergesAlike left right parameter) :
    AgreeOn first second left right block other := by
  rw [AgreeOn, build, build, sameMarker, sameComment]
  cases Entry.ofComment (cleanComment second.marker other.comment) with
  | error fault => rfl
  | ok entries =>
      cases entries with
      | nil => rfl
      | cons entry others =>
          rcases cases_of_map_eq_map (mergeAll_agree alike (drafts entry)) with
            ⟨fault, failed, otherFailed⟩ | ⟨merged, otherMerged, success, otherSuccess, same⟩
          · simp only [failed, otherFailed, Except.map]
          · have parts := Prod.mk.inj same
            simp only [success, otherSuccess, Except.map, Relabeling.block, Option.map_some,
              parts.1, parts.2]

end Builder

end Blocks

/-! ## Two builds -/

namespace Builder

variable {first second : Builder} {left right : Relabeling}

/-- Two files have one path, and their blocks give one result each. -/
def AgreeOnFile (first second : Builder) (left right : Relabeling) (file other : SourceFile) :
    Prop :=
  file.path = other.path ∧
    List.Forall₂ (AgreeOn first second left right) file.blocks other.blocks

theorem AgreeOn.cases {block other : Block} (agree : AgreeOn first second left right block other) :
    (∃ cause, first.build block = .error cause ∧ second.build other = .error cause) ∨
      ∃ built otherBuilt notices, first.build block = .ok (built, notices) ∧
        second.build other = .ok (otherBuilt, notices) ∧
        built.map left.change = otherBuilt.map right.change := by
  rcases cases_of_map_eq_map agree with failed | ⟨result, otherResult, success, otherSuccess, same⟩
  · exact .inl failed
  · have parts := Prod.mk.inj same
    refine .inr ⟨result.1, otherResult.1, result.2, success, ?_, parts.1⟩
    rw [otherSuccess, parts.2]

/-- A change of the sections of a block can be made before their file is noted. -/
theorem map_change_sectionsIn (builder : Builder) (relabeling : Relabeling) (file : SourceFile)
    (block : Block) :
    (builder.sectionsIn file [block]).map relabeling.change =
      (((builder.sectionOf? block).map relabeling.change).map fun s =>
        { s with file := file.path, dialect := file.dialect }).toList := by
  rw [sectionsIn, List.filterMap_cons]
  cases builder.sectionOf? block with
  | none => rfl
  | some s => rfl

theorem buildBlocks_agree {file other : SourceFile} (samePath : file.path = other.path)
    {blocks others : List Block}
    (agree : List.Forall₂ (AgreeOn first second left right) blocks others) (index : Nat) :
    (first.buildBlocks file index blocks).map left.built =
      (second.buildBlocks other index others).map right.built := by
  induction agree generalizing index with
  | nil => rfl
  | @cons block otherBlock rest others here _ induction =>
      rcases here.cases with
        ⟨cause, failed, otherFailed⟩ | ⟨built, otherBuilt, notices, success, otherSuccess, same⟩
      · rw [buildBlocks_cons_of_error failed, buildBlocks_cons_of_error otherFailed, samePath]
        rfl
      · have sameDialect : file.dialect = other.dialect := by
          rw [SourceFile.dialect, samePath, SourceFile.dialect]
        have sameSections : (first.sectionsIn file [block]).map left.change =
            (second.sectionsIn other [otherBlock]).map right.change := by
          rw [map_change_sectionsIn, map_change_sectionsIn, sectionOf?, success, sectionOf?,
            otherSuccess, samePath, sameDialect, same]
        rw [buildBlocks_cons_of_ok success, buildBlocks_cons_of_ok otherSuccess,
          left.map_thenBuild, right.map_thenBuild, induction]
        simp only [Except.map, Relabeling.built, sameSections]

theorem AgreeOnFile.buildFile {file other : SourceFile}
    (agree : AgreeOnFile first second left right file other) :
    (first.buildFile file).map left.built = (second.buildFile other).map right.built := by
  rw [Builder.buildFile, Builder.buildFile, agree.1, agree.2.length_eq]
  rcases cases_of_map_eq_map (buildBlocks_agree agree.1 agree.2 0) with
    ⟨fault, failed, otherFailed⟩ | ⟨built, otherBuilt, success, otherSuccess, same⟩
  · rw [failed, otherFailed]
    rfl
  · have parts := Built.mk.inj same
    rw [success, otherSuccess]
    simp only [Except.map, Relabeling.built, parts.1, parts.2]

theorem buildFiles_agree {files others : List SourceFile}
    (agree : List.Forall₂ (AgreeOnFile first second left right) files others) :
    (first.buildFiles files).map left.built = (second.buildFiles others).map right.built := by
  induction agree with
  | nil => rfl
  | cons here _ induction =>
      rw [buildFiles_cons, buildFiles_cons, left.map_thenBuild, right.map_thenBuild,
        here.buildFile, induction]

/-- Builds that agree on all blocks have one catalogue or one fault, up to the changes. -/
theorem catalog_agree (sameNames : left.header = right.header) {files others : List SourceFile}
    (agree : List.Forall₂ (AgreeOnFile first second left right) files others) :
    left.outcome (first.catalog files) = right.outcome (second.catalog others) := by
  rcases cases_of_map_eq_map (buildFiles_agree agree) with
    ⟨fault, failed, otherFailed⟩ | ⟨built, otherBuilt, success, otherSuccess, same⟩
  · rw [catalog, failed, catalog, otherFailed]
    cases fault with
    | block file index cause => rfl
    | collision collision =>
        simp only [Relabeling.outcome, Except.map, Except.mapError, Relabeling.fault, sameNames]
  · have parts := Built.mk.inj same
    have counts := congrArg List.length parts.1
    rw [List.length_map, List.length_map] at counts
    rw [catalog_of_buildFiles success, catalog_of_buildFiles otherSuccess, left.outcome_concluded,
      right.outcome_concluded, ← left.resolveSections_map, ← right.resolveSections_map, parts.1,
      parts.2, counts, agree.length_eq]

end Builder

end StyleCatalog
