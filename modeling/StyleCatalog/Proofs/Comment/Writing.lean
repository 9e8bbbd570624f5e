import StyleCatalog.Proofs.Comment.Declarations
import StyleCatalog.Proofs.Comment.Paragraphs
import StyleCatalog.Proofs.Text.Numerals

/-! # Writing entries

An entry is written paragraph by paragraph, and a comment entry by entry. `Canonical.ofText_written`
says which paragraphs a written entry consists of.
-/

namespace StyleCatalog

/-! ## Writing -/

namespace Entry

def flagTexts (entry : Entry) : List Text :=
  (if entry.deprecated then ["Deprecated:".toList] else []) ++
    if entry.experimental then ["Experimental:".toList] else []

/-- An entry as paragraphs with a blank line between them. The description holds such paragraphs
already. -/
def written (entry : Entry) : Text :=
  List.intercalate "\n\n".toList
    ([entry.header] ++ entry.flagTexts ++
      (if entry.description.isEmpty then [] else [entry.description]) ++
      (if entry.variants.isEmpty then [] else
        [Text.unlines (entry.variants.map Variant.written)]) ++
      entry.markup.toList.map ("Markup: ".toList ++ ·) ++
      ["Weight: ".toList ++ Text.ofInt entry.weight.value,
        "Styleguide ".toList ++ entry.reference])

/-- Entries one after the other. -/
def writtenAll (entries : List Entry) : Text :=
  List.intercalate "\n\n".toList (entries.map written)

/-- A paragraph that starts neither like a reference nor with a flag word. -/
structure IsHeading (t : Text) : Prop where
  tidy : t.Tidy
  noReference : closing? (t.splitAtChar '\n') = none
  noFlag : Flag.read? t = none

instance (t : Text) : Decidable (IsHeading t) :=
  decidable_of_iff (t.Tidy ∧ closing? (t.splitAtChar '\n') = none ∧ Flag.read? t = none)
    ⟨fun ⟨tidy, noReference, noFlag⟩ => ⟨tidy, noReference, noFlag⟩,
      fun ⟨tidy, noReference, noFlag⟩ => ⟨tidy, noReference, noFlag⟩⟩

/-- A paragraph that starts like no declaration. -/
structure IsProse (t : Text) : Prop extends IsHeading t where
  noMarkup : ∀ line ∈ (t.splitAtChar '\n').head?, Paragraph.markup? line = none
  noWeight : ∀ line ∈ (t.splitAtChar '\n').head?, Paragraph.weight? line = none
  noModifier : ∀ line ∈ (t.splitAtChar '\n').head?, Paragraph.modifier? line = none

instance (t : Text) : Decidable (IsProse t) :=
  decidable_of_iff (IsHeading t ∧
      (∀ line ∈ (t.splitAtChar '\n').head?, Paragraph.markup? line = none) ∧
      (∀ line ∈ (t.splitAtChar '\n').head?, Paragraph.weight? line = none) ∧
      ∀ line ∈ (t.splitAtChar '\n').head?, Paragraph.modifier? line = none)
    ⟨fun ⟨heading, noMarkup, noWeight, noModifier⟩ => ⟨heading, noMarkup, noWeight, noModifier⟩,
      fun ⟨heading, noMarkup, noWeight, noModifier⟩ => ⟨heading, noMarkup, noWeight, noModifier⟩⟩

/-- An entry whose fields are as a comment can hold them. -/
structure Canonical (entry : Entry) : Prop where
  header : IsHeading entry.header
  description : ∃ prose : List Text, entry.description = List.intercalate "\n\n".toList prose ∧
    ∀ t ∈ prose, IsProse t
  variants : ∀ variant ∈ entry.variants, variant.Canonical
  markup : ∀ markup ∈ entry.markup, markup.Tidy
  named : entry.reference ≠ []
  trimmedReference : entry.reference.trim = entry.reference
  referenceOnOneLine : '\n' ∉ entry.reference
  noStop : entry.reference.getLast? ≠ some '.'

end Entry

/-! ## Paragraphs of a written entry -/

namespace Paragraph

theorem ofText_line {line : Text} (free : '\n' ∉ line) (solid : line.isBlankLine = false)
    (flush : line.trimEnd = line) : ofText line = [[line]] := by
  have one : ofText (Text.unlines [line]) = [[line]] :=
    ofText_unlines (by simp) (by simpa using free) (by simpa using solid) (by simpa using flush)
  rwa [Text.unlines_singleton] at one

theorem splitAtChar_keyword_append {keyword first t : Text} {more : List Text}
    (free : '\n' ∉ keyword) (split : t.splitAtChar '\n' = first :: more) :
    (keyword ++ t).splitAtChar '\n' = (keyword ++ first) :: more := by
  rw [Text.splitAtChar_append free, split, List.modifyHead_cons]

/-- A tidy text stays one paragraph behind a keyword. -/
theorem ofText_keyword_append {keyword t : Text} (free : '\n' ∉ keyword) (tidy : t.Tidy) :
    ofText (keyword ++ t) = [(keyword ++ t).splitAtChar '\n'] := by
  have solid := tidy.solid
  have flush := tidy.flush
  rcases List.exists_cons_of_ne_nil (Text.splitAtChar_ne_nil '\n' t) with ⟨first, more, split⟩
  rw [split, List.forall_mem_cons] at solid flush
  have lines := splitAtChar_keyword_append free split
  have read := ofText_unlines (Text.splitAtChar_ne_nil '\n' (keyword ++ t))
    (fun line => Text.not_mem_of_mem_splitAtChar)
  rw [Text.unlines, Text.intercalate_splitAtChar, lines, List.forall_mem_cons,
    List.forall_mem_cons] at read
  rw [lines]
  apply read
  · exact ⟨by rw [Text.isBlankLine_append, solid.1, Bool.and_false], solid.2⟩
  · exact ⟨Text.trimEnd_append_of_ne_nil keyword (tidy.first_ne_nil split) flush.1, flush.2⟩

end Paragraph

namespace Variant

variable {variant : Variant}

theorem Canonical.newline_not_mem_written (canonical : variant.Canonical) :
    '\n' ∉ variant.written := by
  rcases canonical.name with ⟨mark, stem, name, marked, -, solid⟩
  have notMark : '\n' ≠ mark := by
    rcases marked with rfl | rfl <;> decide
  have notStem : '\n' ∉ stem := fun member => absurd (solid '\n' member) (by decide)
  simp [written, name, notMark, notStem, canonical.oneLine]

theorem Canonical.isBlankLine_written (canonical : variant.Canonical) :
    variant.written.isBlankLine = false := by
  rcases canonical.exists_cons with ⟨mark, rest, shape, rfl | rfl⟩
  · rw [shape]
    rfl
  · rw [shape]
    rfl

theorem Canonical.trimEnd_written (canonical : variant.Canonical) :
    variant.written.trimEnd = variant.written :=
  Text.trimEnd_append_of_ne_nil _ canonical.described
    (Text.trim_eq_self_iff.mp canonical.trimmed).2

theorem ofText_written {variants : List Variant} (nonempty : variants ≠ [])
    (canonical : ∀ variant ∈ variants, variant.Canonical) :
    Paragraph.ofText (Text.unlines (variants.map written)) = [variants.map written] := by
  apply Paragraph.ofText_unlines
  · simpa using nonempty
  · simpa using fun variant member => (canonical variant member).newline_not_mem_written
  · simpa using fun variant member => (canonical variant member).isBlankLine_written
  · simpa using fun variant member => (canonical variant member).trimEnd_written

end Variant

namespace Entry

variable {entry : Entry} {prose : List Text}

/-- The paragraphs of a written entry before its reference, when its description consists of the
paragraphs `prose`. -/
def body (entry : Entry) (prose : List Text) : List Paragraph :=
  [entry.header.splitAtChar '\n'] ++ entry.flagTexts.map ([·]) ++
    prose.map (Text.splitAtChar '\n') ++
    (if entry.variants.isEmpty then [] else [entry.variants.map Variant.written]) ++
    entry.markup.toList.map (fun markup => Text.splitAtChar '\n' ("Markup: ".toList ++ markup)) ++
    [["Weight: ".toList ++ Text.ofInt entry.weight.value]]

theorem flatMap_ofText_flagTexts (entry : Entry) :
    entry.flagTexts.flatMap Paragraph.ofText = entry.flagTexts.map ([·]) := by
  rw [flagTexts]
  cases entry.deprecated <;> cases entry.experimental <;> decide

theorem ofText_description (joined : entry.description = List.intercalate "\n\n".toList prose)
    (tidy : ∀ t ∈ prose, t.Tidy) :
    (if entry.description.isEmpty then [] else [entry.description]).flatMap Paragraph.ofText =
      prose.map (Text.splitAtChar '\n') := by
  have whole : (if entry.description.isEmpty then [] else [entry.description]).flatMap
      Paragraph.ofText = Paragraph.ofText entry.description := by
    cases entry.description with
    | nil => rfl
    | cons c rest => exact List.flatMap_singleton _ _
  rw [whole, joined, Paragraph.ofText_intercalate, List.map_eq_flatMap]
  exact List.flatMap_congr fun t member => Paragraph.ofText_tidy (tidy t member)

theorem ofText_weight (weight : Weight) :
    Paragraph.ofText ("Weight: ".toList ++ Text.ofInt weight.value) =
      [["Weight: ".toList ++ Text.ofInt weight.value]] := by
  apply Paragraph.ofText_line
  · have free : '\n' ∉ Text.ofInt weight.value :=
      fun member => absurd (Text.not_blank_of_mem_ofInt member) (by decide)
    simp [free]
  · rfl
  · apply Text.trimEnd_append_of_ne_nil _ (Text.ofInt_ne_nil _)
    exact (Text.trim_eq_self_iff.mp (Text.trim_ofInt _)).2

theorem Canonical.ofText_reference (canonical : entry.Canonical) :
    Paragraph.ofText ("Styleguide ".toList ++ entry.reference) =
      [["Styleguide ".toList ++ entry.reference]] := by
  apply Paragraph.ofText_line
  · simp [canonical.referenceOnOneLine]
  · rfl
  · apply Text.trimEnd_append_of_ne_nil _ canonical.named
    exact (Text.trim_eq_self_iff.mp canonical.trimmedReference).2

/-- A written entry consists of its body and its reference. -/
theorem Canonical.ofText_written (canonical : entry.Canonical)
    (joined : entry.description = List.intercalate "\n\n".toList prose)
    (isProse : ∀ t ∈ prose, IsProse t) :
    Paragraph.ofText entry.written =
      entry.body prose ++ [["Styleguide ".toList ++ entry.reference]] := by
  have header := Paragraph.ofText_tidy canonical.header.tidy
  have description := ofText_description joined fun t member => (isProse t member).tidy
  have variants : (if entry.variants.isEmpty then [] else
      [Text.unlines (entry.variants.map Variant.written)]).flatMap Paragraph.ofText =
      if entry.variants.isEmpty then [] else [entry.variants.map Variant.written] := by
    split
    · rfl
    · rename_i some
      rw [List.flatMap_singleton]
      exact Variant.ofText_written (by simpa using some) canonical.variants
  have markup : (entry.markup.toList.map ("Markup: ".toList ++ ·)).flatMap Paragraph.ofText =
      entry.markup.toList.map fun markup =>
        Text.splitAtChar '\n' ("Markup: ".toList ++ markup) := by
    rw [List.flatMap_map, List.map_eq_flatMap]
    apply List.flatMap_congr
    intro markup member
    exact Paragraph.ofText_keyword_append (by decide)
      (canonical.markup markup (Option.mem_toList.mp member))
  rw [written, Paragraph.ofText_intercalate]
  simp only [List.flatMap_append, List.flatMap_cons, List.flatMap_nil, header, description,
    variants, markup, flatMap_ofText_flagTexts, ofText_weight, canonical.ofText_reference, body,
    List.append_assoc, List.append_nil]

end Entry

end StyleCatalog
