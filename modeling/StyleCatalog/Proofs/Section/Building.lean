import StyleCatalog.Proofs.Comment.References
import StyleCatalog.Proofs.Section.Merging

/-! # Markup and references of built sections

A build derives the markup of the modifiers and the reference from the comment, before it merges the
parameters. A `markup` parameter therefore leaves the modifiers behind, and a `reference` parameter
is taken as it stands.
-/

namespace StyleCatalog

variable {builder : Builder} {block : Block} {s : Section} {notices : List Notice}

/-! ## Markup of modifiers -/

theorem markup_of_mem_modifiersFrom {render : Renderer} {markup : Option Text} {position : Nat}
    {variants : List Variant} :
    ∀ modifier ∈ Entry.modifiersFrom render markup position variants,
      modifier.markup = Modifier.fillMarkup markup modifier.className := by
  induction variants generalizing position with
  | nil => exact List.forall_mem_nil _
  | cons variant rest induction => exact List.forall_mem_cons.mpr ⟨rfl, induction⟩

/-- The markup of a modifier is the markup that the comment declares, filled in. The section's own
markup is the same, and then the modifiers follow it, unless a parameter replaces it. -/
theorem modifier_markup_of_build (success : builder.build block = .ok (some s, notices)) :
    ∃ entry others,
      Entry.ofComment (cleanComment builder.marker block.comment) = .ok (entry :: others) ∧
      (∀ modifier ∈ s.modifiers,
        modifier.markup = Modifier.fillMarkup entry.markup modifier.className) ∧
      s.markup =
        (lastValue? "markup".toList (parameters builder.marker block.comment)).or entry.markup ∧
      ((∀ parameter ∈ parameters builder.marker block.comment,
          parameter.name ≠ "markup".toList) →
        ∀ modifier ∈ s.modifiers,
          modifier.markup = Modifier.fillMarkup s.markup modifier.className ∧
            (modifier.markup = none ↔ s.markup = none)) := by
  rcases Builder.exists_of_build success with ⟨entry, others, read, merges⟩
  have filled : ∀ modifier ∈ s.modifiers,
      modifier.markup = Modifier.fillMarkup entry.markup modifier.className := by
    rw [merges.modifiers_eq]
    exact markup_of_mem_modifiersFrom
  refine ⟨entry, others, read, filled, merges.textField_eq .markup, ?_⟩
  intro untouched modifier member
  have same : s.markup = entry.markup := merges.textField_eq_of_absent .markup untouched
  rw [filled modifier member, same]
  exact ⟨rfl, Option.map_eq_none_iff⟩

def plainBuilder : Builder := ⟨defaultMarker, Renderer.plain⟩

def buttonBlock : Block where
  comment := "Button\n\n.large - Bigger\n\nMarkup: <a \x7b$modifiers\x7d>\n\nStyleguide 1".toList
  code := none

def buttonSection : Section where
  header := "Button".toList
  modifiers := [⟨1, ".large".toList, "Bigger".toList, "large".toList, some "<a large>".toList⟩]
  reference := "1".toList
  markup := some "<a \x7b$modifiers\x7d>".toList

theorem build_buttonBlock : plainBuilder.build buttonBlock = .ok (some buttonSection, []) := by
  rfl

theorem buttonSection_modifier_markup :
    plainBuilder.build buttonBlock = .ok (some buttonSection, []) ∧
      ∀ modifier ∈ buttonSection.modifiers,
        modifier.markup = Modifier.fillMarkup buttonSection.markup modifier.className ∧
          (modifier.markup = none ↔ buttonSection.markup = none) := by
  rcases modifier_markup_of_build build_buttonBlock with ⟨_, _, -, -, -, follows⟩
  exact ⟨build_buttonBlock, follows (by decide)⟩

/-- A comment that gives the markup as a parameter. -/
def restyledBlock : Block where
  comment := "Button\n\n.large - Bigger\n\nsg-markup: <a \x7b$modifiers\x7d>\n\nStyleguide 1".toList
  code := none

def restyledModifier : Modifier :=
  ⟨1, ".large".toList, "Bigger".toList, "large".toList, none⟩

def restyledSection : Section where
  header := "Button".toList
  modifiers := [restyledModifier]
  reference := "1".toList
  markup := some "<a \x7b$modifiers\x7d>".toList

theorem restyledBlock_leaves_modifier_behind :
    plainBuilder.build restyledBlock = .ok (some restyledSection, []) ∧
      restyledModifier ∈ restyledSection.modifiers ∧
      restyledModifier.markup ≠
        Modifier.fillMarkup restyledSection.markup restyledModifier.className ∧
      ¬(restyledModifier.markup = none ↔ restyledSection.markup = none) :=
  ⟨rfl, List.mem_cons_self, by decide, by decide⟩

/-! ## References -/

theorem trim_value_of_mem_parameters {marker t : Text} :
    ∀ parameter ∈ parameters marker t, parameter.value.trim = parameter.value := by
  intro parameter member
  rcases List.mem_filterMap.mp member with ⟨run, -, found⟩
  cases run with
  | kept line => cases found
  | parameter name opening below =>
      cases found
      exact Text.trim_trim _

theorem exists_line_of_ofComment {comment : Text} {entries : List Entry}
    (success : Entry.ofComment comment = .ok entries) :
    ∀ entry ∈ entries, entry.reference ≠ [] ∧
      ∃ paragraph ∈ Paragraph.ofText comment, ∃ line ∈ paragraph,
        Paragraph.reference? line = some entry.reference := by
  intro entry member
  rcases Entry.exists_closing_of_ofParagraphs success entry member with
    ⟨named, paragraph, inComment, closes⟩
  cases paragraph with
  | nil => cases closes
  | cons line more => exact ⟨named, _, inComment, line, List.mem_cons_self, closes⟩

/-- A built section has a trimmed reference. It is the value of the last `reference` parameter,
whatever that is; without one it is not empty, and it ends in a full stop only if the line that
names it goes on with white space and full stops. -/
theorem reference_of_build (success : builder.build block = .ok (some s, notices)) :
    s.reference.trim = s.reference ∧
    (∀ value, lastValue? "reference".toList (parameters builder.marker block.comment) = some value →
      s.reference = value) ∧
    ((∀ parameter ∈ parameters builder.marker block.comment,
        parameter.name ≠ "reference".toList) →
      s.reference ≠ [] ∧
        (s.reference.getLast? = some '.' →
          ∃ paragraph ∈ Paragraph.ofText (cleanComment builder.marker block.comment),
            ∃ line ∈ paragraph, ∃ gap stops : Text,
              gap ≠ [] ∧ gap.isBlankLine = true ∧ stops ≠ [] ∧ (∀ c ∈ stops, c = '.') ∧
                s.reference ++ gap ++ stops <:+: line)) := by
  rcases Builder.exists_of_build success with ⟨entry, others, read, merges⟩
  rcases exists_line_of_ofComment read entry List.mem_cons_self with
    ⟨named, paragraph, inComment, line, inParagraph, names⟩
  have merged : some s.reference =
      (lastValue? "reference".toList (parameters builder.marker block.comment)).or
        (some entry.reference) := merges.textField_eq .reference
  refine ⟨?_, ?_, ?_⟩
  · cases last : lastValue? "reference".toList (parameters builder.marker block.comment) with
    | none =>
        rw [last] at merged
        rw [Option.some.inj merged]
        exact Paragraph.trim_of_reference? names
    | some value =>
        rw [last] at merged
        rcases exists_mem_of_lastValue?_eq_some last with ⟨parameter, member, rfl⟩
        rw [Option.some.inj merged]
        exact trim_value_of_mem_parameters parameter member
  · intro value last
    rw [last] at merged
    exact Option.some.inj merged
  · intro untouched
    have same : s.reference = entry.reference :=
      Option.some.inj (merges.textField_eq_of_absent .reference untouched)
    rw [same]
    refine ⟨named, fun stop => ?_⟩
    exact ⟨paragraph, inComment, line, inParagraph,
      Paragraph.exists_stops_of_reference? names stop⟩

theorem buttonSection_reference :
    plainBuilder.build buttonBlock = .ok (some buttonSection, []) ∧
      buttonSection.reference.trim = buttonSection.reference ∧ buttonSection.reference ≠ [] := by
  rcases reference_of_build build_buttonBlock with ⟨trimmed, -, named⟩
  exact ⟨build_buttonBlock, trimmed, (named (by decide)).1⟩

/-- Comments whose sections end up without a usable reference: the parameter has no value or a full
stop at its end, or white space parts the full stops of the line. -/
def namelessBlock : Block := ⟨"A\n\nsg-reference:\n\nStyleguide 1".toList, none⟩

def stoppedBlock : Block := ⟨"A\n\nsg-reference: 2.\n\nStyleguide 1".toList, none⟩

def partedBlock : Block := ⟨"A\n\nStyleguide 1. .".toList, none⟩

theorem unusable_references_are_built :
    plainBuilder.build namelessBlock = .ok (some { header := ['A'], reference := [] }, []) ∧
      plainBuilder.build stoppedBlock =
        .ok (some { header := ['A'], reference := ['2', '.'] }, []) ∧
      plainBuilder.build partedBlock =
        .ok (some { header := ['A'], reference := ['1', '.'] }, []) :=
  ⟨rfl, rfl, rfl⟩

end StyleCatalog
