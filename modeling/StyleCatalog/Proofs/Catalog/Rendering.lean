import StyleCatalog.Proofs.Catalog.Agreement

/-! # Renderers

A renderer decides how headers and descriptions read, and nothing else. The sections that two
renderers give differ in these texts only, and the catalogues fail for the same reason:
`catalog_of_renderers`.
-/

namespace StyleCatalog

def Modifier.bare (modifier : Modifier) : Modifier := { modifier with description := [] }

/-- A section without its rendered texts. -/
def Section.bare (s : Section) : Section :=
  { s with header := [], description := [], modifiers := s.modifiers.map Modifier.bare }

def Relabeling.bare : Relabeling where
  header _ := []
  description _ := []
  modifiers := List.map Modifier.bare
  css := id
  header_nil := rfl

/-! ## Building -/

theorem bare_modifiersFrom (first second : Renderer) (markup : Option Text) (position : Nat)
    (variants : List Variant) :
    (Entry.modifiersFrom first markup position variants).map Modifier.bare =
      (Entry.modifiersFrom second markup position variants).map Modifier.bare := by
  induction variants generalizing position with
  | nil => rfl
  | cons variant rest induction =>
      rw [Entry.modifiersFrom, Entry.modifiersFrom, List.map_cons, List.map_cons, induction]
      rfl

theorem bare_draft (first second : Renderer) (entry : Entry) (css : Option Text) :
    Section.bare { entry.toSection first with css := css } =
      Section.bare { entry.toSection second with css := css } := by
  have modifiers := bare_modifiersFrom first second entry.markup 1 entry.variants
  simp only [Section.bare, Entry.toSection, modifiers]

namespace Builder

theorem agreeOn_renderers (marker : Text) (first second : Renderer) (block : Block) :
    AgreeOn ⟨marker, first⟩ ⟨marker, second⟩ .bare .bare block block :=
  agreeOn_of_drafts rfl rfl (fun entry => bare_draft first second entry _)
    fun _ _ => mergesAlike rfl rfl rfl

theorem outcome_catalog_renderers (marker : Text) (first second : Renderer)
    (files : List SourceFile) :
    Relabeling.bare.outcome ((Builder.mk marker first).catalog files) =
      Relabeling.bare.outcome ((Builder.mk marker second).catalog files) := by
  apply catalog_agree rfl
  rw [List.forall₂_same]
  intro file _
  refine ⟨rfl, List.forall₂_same.mpr fun block _ => ?_⟩
  exact agreeOn_renderers marker first second block

end Builder

/-- Rendering cannot influence structure. Whatever the two renderers, both catalogues can be made,
and their sections agree in all but the rendered texts, or both fail at one block for one cause, or
both fail by a collision at one reference. -/
theorem catalog_of_renderers (marker : Text) (first second : Renderer) (files : List SourceFile) :
    (∃ built other, (Builder.mk marker first).catalog files = .ok built ∧
      (Builder.mk marker second).catalog files = .ok other ∧
      built.sections.map Section.bare = other.sections.map Section.bare) ∨
    (∃ file index cause,
      (Builder.mk marker first).catalog files = .error (.block file index cause) ∧
      (Builder.mk marker second).catalog files = .error (.block file index cause)) ∨
    ∃ clash other, (Builder.mk marker first).catalog files = .error (.collision clash) ∧
      (Builder.mk marker second).catalog files = .error (.collision other) ∧
      clash.reference = other.reference := by
  have same := Builder.outcome_catalog_renderers marker first second files
  cases firstOutcome : (Builder.mk marker first).catalog files with
  | ok built =>
      cases secondOutcome : (Builder.mk marker second).catalog files with
      | ok other =>
          rw [firstOutcome, secondOutcome] at same
          have parts := Built.mk.inj (Except.ok.inj same)
          exact .inl ⟨built, other, rfl, rfl, parts.1⟩
      | error fault =>
          rw [firstOutcome, secondOutcome] at same
          cases same
  | error fault =>
      cases secondOutcome : (Builder.mk marker second).catalog files with
      | ok other =>
          rw [firstOutcome, secondOutcome] at same
          cases same
      | error otherFault =>
          rw [firstOutcome, secondOutcome] at same
          have sameFault := Except.error.inj same
          cases fault with
          | block file index cause =>
              cases otherFault with
              | block otherFile otherIndex otherCause =>
                  cases sameFault
                  exact .inr (.inl ⟨file, index, cause, rfl, rfl⟩)
              | collision other => cases sameFault
          | collision clash =>
              cases otherFault with
              | block otherFile otherIndex otherCause => cases sameFault
              | collision other =>
                  have parts := Collision.mk.inj (CatalogError.collision.inj sameFault)
                  exact .inr (.inr ⟨clash, other, rfl, rfl, parts.2.2⟩)

end StyleCatalog
