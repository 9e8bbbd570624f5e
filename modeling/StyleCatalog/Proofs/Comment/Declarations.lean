import StyleCatalog.Comment.Entry
import StyleCatalog.Proofs.Text.Trimming

/-! # Written declarations

A reference, a weight, markup and a variant each have a written form, and the line that holds it
declares just that: the recogniser of its kind reads it back, and those asked before it pass it by.
-/

namespace StyleCatalog

/-! ## References, weights and markup on a line -/

namespace Paragraph

theorem trim_cons_space (t : Text) : Text.trim (' ' :: t) = t.trim := by
  rw [Text.trim, Text.trimStart_cons_of_blank t (by decide), Text.trim]

theorem reference?_written {reference : Text} (trimmed : reference.trim = reference)
    (noStop : reference.getLast? ≠ some '.') :
    reference? ("Styleguide ".toList ++ reference) = some reference := by
  have kept : reference.dropEndWhile (· = '.') = reference := by
    rw [Text.dropEndWhile, List.reverse_eq_iff, dropWhile_eq_self_iff_head?, List.head?_reverse]
    rintro c last
    rw [decide_eq_false_iff_not]
    rintro rfl
    exact noStop last
  calc
    reference? ("Styleguide ".toList ++ reference) =
        some (Text.trim (Text.dropEndWhile (· = '.') (Text.trim (' ' :: reference)))) := rfl
    _ = some reference := by rw [trim_cons_space, trimmed, kept, trimmed]

theorem weight?_written (t : Text) : weight? ("Weight: ".toList ++ t) = some t.trim := by
  calc
    weight? ("Weight: ".toList ++ t) = some (Text.trim (' ' :: t)) := rfl
    _ = some t.trim := by rw [trim_cons_space]

theorem markup?_written (t : Text) : markup? ("Markup: ".toList ++ t) = some t.trimStart := by
  calc
    markup? ("Markup: ".toList ++ t) = some (Text.trimStart (' ' :: t)) := rfl
    _ = some t.trimStart := by rw [Text.trimStart_cons_of_blank t (by decide)]

end Paragraph

/-! ## Variants -/

namespace Variant

/-- The line that declares a variant. -/
def written (variant : Variant) : Text := variant.name ++ " - ".toList ++ variant.description

/-- A variant whose line reads back: a full stop or a colon and then no white space make up the
name, and the description is a trimmed line. -/
structure Canonical (variant : Variant) : Prop where
  name : ∃ mark stem, variant.name = mark :: stem ∧ (mark = '.' ∨ mark = ':') ∧ stem ≠ [] ∧
    ∀ c ∈ stem, isBlank c = false
  described : variant.description ≠ []
  trimmed : variant.description.trim = variant.description
  oneLine : '\n' ∉ variant.description

variable {variant : Variant}

theorem Canonical.exists_cons (canonical : variant.Canonical) :
    ∃ mark rest, variant.written = mark :: rest ∧ (mark = '.' ∨ mark = ':') := by
  rcases canonical.name with ⟨mark, stem, name, marked, -, -⟩
  exact ⟨mark, stem ++ " - ".toList ++ variant.description, by simp [written, name], marked⟩

theorem dashed?_written (trimmed : variant.description.trim = variant.description) :
    Paragraph.dashed? (" - ".toList ++ variant.description) = some variant.description := by
  calc
    Paragraph.dashed? (" - ".toList ++ variant.description) =
        some variant.description.trimStart := rfl
    _ = some variant.description := by rw [(Text.trim_eq_self_iff.mp trimmed).1]

theorem modifier?_written (canonical : variant.Canonical) :
    Paragraph.modifier? variant.written = some (variant.name, variant.description) := by
  rcases canonical.name with ⟨mark, stem, name, marked, nonempty, solid⟩
  have notBlank : isBlank mark = false := by
    rcases marked with rfl | rfl <;> decide
  have start : variant.written.trimStart =
      mark :: (stem ++ (" - ".toList ++ variant.description)) := by
    rw [written, name, List.append_assoc, List.cons_append,
      Text.trimStart_cons_of_not_blank _ notBlank]
  have inStem : ∀ c ∈ stem, (!isBlank c) = true := by simpa using solid
  -- The blank before the dash is where the name ends.
  have taken : (stem ++ (" - ".toList ++ variant.description)).takeWhile (fun c => !isBlank c) =
      stem := by
    rw [List.takeWhile_append_of_pos inStem]
    exact List.append_nil stem
  have dropped : (stem ++ (" - ".toList ++ variant.description)).dropWhile (fun c => !isBlank c) =
      " - ".toList ++ variant.description := by
    rw [List.dropWhile_append_of_pos inStem]
    rfl
  have isMark : (mark = '.' || mark = ':') = true := by simpa using marked
  simp only [Paragraph.modifier?, start, isMark, taken, dropped, dashed?_written canonical.trimmed]
  simp [nonempty, name]

theorem Canonical.declares_nothing_else (canonical : variant.Canonical) :
    Paragraph.markup? variant.written = none ∧ Paragraph.weight? variant.written = none ∧
      Paragraph.reference? variant.written = none := by
  rcases canonical.exists_cons with ⟨mark, rest, shape, rfl | rfl⟩
  · rw [shape]
    exact ⟨rfl, rfl, rfl⟩
  · rw [shape]
    exact ⟨rfl, rfl, rfl⟩

end Variant

end StyleCatalog
