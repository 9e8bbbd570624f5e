import StyleCatalog.Proofs.Comment.Weights
import StyleCatalog.Proofs.Comment.Writing

/-! # Written entries come back

Reading a written comment gives back the entries that it was written from, `ofComment_writtenAll`:
no paragraph is taken for one of another kind, and nothing passes from one entry to the next.
-/

namespace StyleCatalog.Entry

variable {entry next : Entry}

/-! ## Taking in paragraphs -/

theorem absorbAll_cons {paragraph : Paragraph} (taken : entry.absorb paragraph = .ok next)
    (rest : List Paragraph) : entry.absorbAll (paragraph :: rest) = next.absorbAll rest := by
  rw [absorbAll, taken]

theorem absorbAll_append {first : List Paragraph} (taken : entry.absorbAll first = .ok next)
    (rest : List Paragraph) : entry.absorbAll (first ++ rest) = next.absorbAll rest := by
  induction first generalizing entry with
  | nil =>
      cases taken
      rfl
  | cons paragraph more induction =>
      rw [absorbAll] at taken
      cases step : entry.absorb paragraph with
      | error fault =>
          rw [step] at taken
          cases taken
      | ok between =>
          rw [step] at taken
          rw [List.cons_append, absorbAll_cons step, induction taken]

theorem absorb_prose {t : Text} (prose : IsProse t) (entry : Entry) :
    entry.absorb (t.splitAtChar '\n') =
      .ok { entry with
        description :=
          if entry.description.isEmpty then t else entry.description ++ "\n\n".toList ++ t } := by
  have notBlank := prose.tidy.isBlankLine_eq_false
  have whole := Paragraph.text_splitAtChar t
  rcases List.exists_cons_of_ne_nil (Text.splitAtChar_ne_nil '\n' t) with ⟨first, more, split⟩
  have noMarkup := prose.noMarkup first (by simp [split])
  have noWeight := prose.noWeight first (by simp [split])
  have noModifier := prose.noModifier first (by simp [split])
  rw [split] at whole ⊢
  simp [absorb, noMarkup, noWeight, noModifier, whole, takeFlag, prose.noFlag, addProse, notBlank,
    prose.tidy.trimmed]

theorem intercalate_append_cons (separator first second : Text) (rest : List Text) :
    List.intercalate separator ((first ++ separator ++ second) :: rest) =
      List.intercalate separator (first :: second :: rest) := by
  cases rest <;> simp [List.intercalate_cons_cons]

theorem absorbAll_more_prose {prose : List Text} (isProse : ∀ t ∈ prose, IsProse t) (entry : Entry)
    (described : entry.description ≠ []) :
    entry.absorbAll (prose.map (Text.splitAtChar '\n')) =
      .ok { entry with
        description := List.intercalate "\n\n".toList (entry.description :: prose) } := by
  induction prose generalizing entry with
  | nil =>
      rw [List.intercalate_singleton]
      rfl
  | cons t rest induction =>
      have joined := absorb_prose (isProse t List.mem_cons_self) entry
      rw [if_neg (by simpa using described)] at joined
      rw [List.map_cons, absorbAll_cons joined,
        induction (fun other member => isProse other (List.mem_cons_of_mem t member)) _ (by simp),
        intercalate_append_cons]

/-- Paragraphs of prose make up the description. -/
theorem absorbAll_prose {prose : List Text} (isProse : ∀ t ∈ prose, IsProse t) (entry : Entry)
    (undescribed : entry.description = []) :
    entry.absorbAll (prose.map (Text.splitAtChar '\n')) =
      .ok { entry with description := List.intercalate "\n\n".toList prose } := by
  cases prose with
  | nil =>
      rw [List.intercalate_nil, ← undescribed]
      rfl
  | cons t rest =>
      have here := isProse t List.mem_cons_self
      have first := absorb_prose here entry
      rw [if_pos (by simp [undescribed])] at first
      rw [List.map_cons, absorbAll_cons first]
      exact absorbAll_more_prose
        (fun other member => isProse other (List.mem_cons_of_mem t member)) _ here.tidy.ne_nil

theorem absorb_markup {markup : Text} (tidy : markup.Tidy) (entry : Entry) :
    entry.absorb (Text.splitAtChar '\n' ("Markup: ".toList ++ markup)) =
      .ok { entry with markup := some markup } := by
  have whole := Text.intercalate_splitAtChar '\n' markup
  rcases List.exists_cons_of_ne_nil (Text.splitAtChar_ne_nil '\n' markup) with
    ⟨first, more, split⟩
  have firstSome := tidy.first_ne_nil split
  rw [split] at whole
  have sameHead : markup.head? = first.head? := by
    rw [← whole]
    cases more with
    | nil => rw [List.intercalate_singleton]
    | cons second rest =>
        rw [List.intercalate_cons_cons, List.append_assoc,
          List.head?_append_of_ne_nil _ firstSome]
  have start : first.trimStart = first := by
    have starts := (Text.trim_eq_self_iff.mp tidy.trimmed).1
    rw [Text.trimStart_eq_self_iff] at starts ⊢
    rwa [← sameHead]
  have kept : markupOf first more = some markup := by
    simp [markupOf, Text.unlines, whole, tidy.trimmed, tidy.ne_nil]
  rw [Paragraph.splitAtChar_keyword_append (by decide) split, absorb, Paragraph.markup?_written,
    start]
  simp [kept]

theorem absorb_weight (weight : Weight) (entry : Entry) :
    entry.absorb ["Weight: ".toList ++ Text.ofInt weight.value] =
      .ok { entry with weight := weight } := by
  have noMarkup : Paragraph.markup? ("Weight: ".toList ++ Text.ofInt weight.value) = none := rfl
  rw [absorb, noMarkup, Paragraph.weight?_written, Text.trim_ofInt]
  simp [Weight.parse_ofInt, Except.map]

theorem readVariants_written {variants : List Variant}
    (canonical : ∀ variant ∈ variants, variant.Canonical) (found : List Variant) :
    readVariants found (variants.map Variant.written) = found ++ variants := by
  induction variants generalizing found with
  | nil => simp [readVariants]
  | cons variant rest induction =>
      have here := canonical variant List.mem_cons_self
      rw [List.map_cons, readVariants, Variant.modifier?_written here]
      simp [here.trimmed, induction fun other member =>
        canonical other (List.mem_cons_of_mem variant member)]

theorem absorb_variants {variants : List Variant} (nonempty : variants ≠ [])
    (canonical : ∀ variant ∈ variants, variant.Canonical) (entry : Entry) :
    entry.absorb (variants.map Variant.written) =
      .ok { entry with variants := entry.variants ++ variants } := by
  have read := readVariants_written canonical []
  cases variants with
  | nil => exact absurd rfl nonempty
  | cons variant rest =>
      have here := canonical variant List.mem_cons_self
      have others := here.declares_nothing_else
      rw [List.map_cons] at read ⊢
      simp [absorb, others.1, others.2.1, Variant.modifier?_written here, read]

/-! ## Reading a body -/

theorem absorbAll_flagTexts (entry : Entry) (header reference : Text) :
    absorbAll { header := header, reference := reference } (entry.flagTexts.map ([·])) =
      .ok { header := header, reference := reference, deprecated := entry.deprecated,
            experimental := entry.experimental } := by
  rw [flagTexts]
  cases entry.deprecated <;> cases entry.experimental <;> rfl

theorem absorbAll_variants {variants : List Variant}
    (canonical : ∀ variant ∈ variants, variant.Canonical) (entry : Entry) :
    entry.absorbAll (if variants.isEmpty then [] else [variants.map Variant.written]) =
      .ok { entry with variants := entry.variants ++ variants } := by
  cases variants with
  | nil =>
      rw [List.append_nil]
      rfl
  | cons variant rest =>
      have taken := absorb_variants (List.cons_ne_nil variant rest) canonical entry
      exact absorbAll_cons taken []

theorem absorbAll_markup {markup : Option Text} (tidy : ∀ t ∈ markup, t.Tidy) (entry : Entry)
    (unmarked : entry.markup = none) :
    entry.absorbAll (markup.toList.map fun t =>
      Text.splitAtChar '\n' ("Markup: ".toList ++ t)) = .ok { entry with markup := markup } := by
  cases markup with
  | none =>
      have unchanged : { entry with markup := none } = entry := by rw [← unmarked]
      rw [unchanged]
      rfl
  | some t => exact absorbAll_cons (absorb_markup (tidy t rfl) entry) []

theorem Canonical.ofBody_body (canonical : entry.Canonical) {prose : List Text}
    (joined : entry.description = List.intercalate "\n\n".toList prose)
    (isProse : ∀ t ∈ prose, IsProse t) : ofBody entry.reference (entry.body prose) = .ok entry := by
  have header : takeFlag { reference := entry.reference }
      (Paragraph.text (entry.header.splitAtChar '\n')) =
      ({ reference := entry.reference }, entry.header) := by
    rw [Paragraph.text_splitAtChar, takeFlag, canonical.header.noFlag]
  have flags := absorbAll_flagTexts entry entry.header entry.reference
  have description := absorbAll_prose isProse
    { header := entry.header, reference := entry.reference, deprecated := entry.deprecated,
      experimental := entry.experimental } rfl
  rw [← joined] at description
  simp only [body, List.append_assoc, List.cons_append, List.nil_append, ofBody, header,
    canonical.header.tidy.trimmed]
  rw [absorbAll_append flags, absorbAll_append description,
    absorbAll_append (absorbAll_variants canonical.variants _),
    absorbAll_append (absorbAll_markup canonical.markup _ rfl),
    absorbAll_cons (absorb_weight entry.weight _)]
  rfl

/-! ## Reading a comment -/

theorem ofParagraphs_append {body : List Paragraph}
    (unclosed : ∀ paragraph ∈ body, closing? paragraph = none) (pending rest : List Paragraph) :
    ofParagraphs pending (body ++ rest) = ofParagraphs (pending ++ body) rest := by
  induction body generalizing pending with
  | nil => rw [List.nil_append, List.append_nil]
  | cons paragraph more induction =>
      rw [List.cons_append, ofParagraphs, unclosed paragraph List.mem_cons_self]
      change ofParagraphs (pending ++ [paragraph]) (more ++ rest) = _
      rw [induction fun other member => unclosed other (List.mem_cons_of_mem paragraph member),
        List.append_assoc, List.singleton_append]

theorem Canonical.closing?_body (canonical : entry.Canonical) {prose : List Text}
    (isProse : ∀ t ∈ prose, IsProse t) :
    ∀ paragraph ∈ entry.body prose, closing? paragraph = none := by
  have flags : ∀ t ∈ entry.flagTexts, closing? [t] = none := by
    rw [flagTexts]
    cases entry.deprecated <;> cases entry.experimental <;> decide
  have variants : ∀ paragraph ∈
      (if entry.variants.isEmpty then [] else [entry.variants.map Variant.written]),
      closing? paragraph = none := by
    have canonicals := canonical.variants
    generalize entry.variants = variants at canonicals
    cases variants with
    | nil => exact List.forall_mem_nil _
    | cons variant rest =>
        have here := (canonicals variant List.mem_cons_self).declares_nothing_else
        exact List.forall_mem_singleton.mpr here.2.2
  have markup (t : Text) : closing? (Text.splitAtChar '\n' ("Markup: ".toList ++ t)) = none := by
    rcases List.exists_cons_of_ne_nil (Text.splitAtChar_ne_nil '\n' t) with ⟨first, more, split⟩
    rw [Paragraph.splitAtChar_keyword_append (by decide) split]
    rfl
  simp only [body, List.forall_mem_append, List.forall_mem_map, List.forall_mem_singleton]
  exact ⟨⟨⟨⟨⟨canonical.header.noReference, flags⟩, fun t member => (isProse t member).noReference⟩,
    variants⟩, fun t _ => markup t⟩, rfl⟩

theorem Canonical.ofParagraphs_written (canonical : entry.Canonical) (rest : List Paragraph) :
    ofParagraphs [] (Paragraph.ofText entry.written ++ rest) =
      (ofParagraphs [] rest).map (entry :: ·) := by
  rcases canonical.description with ⟨prose, joined, isProse⟩
  have named : closing? ["Styleguide ".toList ++ entry.reference] = some entry.reference :=
    Paragraph.reference?_written canonical.trimmedReference canonical.noStop
  rw [canonical.ofText_written joined isProse, List.append_assoc,
    ofParagraphs_append (canonical.closing?_body isProse), List.nil_append,
    List.singleton_append, ofParagraphs, named]
  simp [canonical.named, canonical.ofBody_body joined isProse]

/-- Reading undoes writing, for any number of entries. -/
theorem ofComment_writtenAll {entries : List Entry}
    (canonical : ∀ entry ∈ entries, entry.Canonical) :
    ofComment (writtenAll entries) = .ok entries := by
  rw [ofComment, writtenAll, Paragraph.ofText_intercalate]
  induction entries with
  | nil => rfl
  | cons entry rest induction =>
      rw [List.map_cons, List.flatMap_cons,
        (canonical entry List.mem_cons_self).ofParagraphs_written,
        induction fun other member => canonical other (List.mem_cons_of_mem entry member)]
      rfl

/-- An entry with every field, in which lines look like declarations without being any, and one
with as few fields as possible. -/
def sampleEntries : List Entry :=
  [{ header := "Markup: Buttons\nWeight: heavy".toList
     description := "Styleguides tell\n  more.\n\nSee\nMarkup: below".toList
     variants := [⟨".large".toList, "Bigger - much".toList⟩, ⟨"::a".toList, "-".toList⟩]
     deprecated := true
     experimental := true
     reference := "Styleguide: 1.0 a".toList
     markup := some "Weight: 2\n  </a>".toList
     weight := ⟨-30, by decide, by decide⟩ },
    { header := "Links".toList, reference := "2".toList }]

theorem sampleEntries_canonical : ∀ entry ∈ sampleEntries, entry.Canonical := by
  have large : Variant.Canonical ⟨".large".toList, "Bigger - much".toList⟩ :=
    { name := ⟨'.', "large".toList, rfl, .inl rfl, by decide,
        by simp [isBlank, inRanges, whiteSpaceRanges]⟩
      described := by decide
      trimmed := by decide
      oneLine := by decide }
  have double : Variant.Canonical ⟨"::a".toList, "-".toList⟩ :=
    { name := ⟨':', ":a".toList, rfl, .inr rfl, by decide,
        by simp [isBlank, inRanges, whiteSpaceRanges]⟩
      described := by decide
      trimmed := by decide
      oneLine := by decide }
  have full : Canonical (sampleEntries.get ⟨0, by decide⟩) :=
    { header := by decide
      description :=
        ⟨["Styleguides tell\n  more.".toList, "See\nMarkup: below".toList], by decide, by decide⟩
      variants := List.forall_mem_cons.mpr ⟨large, List.forall_mem_singleton.mpr double⟩
      markup := by decide
      named := by decide
      trimmedReference := by decide
      referenceOnOneLine := by decide
      noStop := by decide }
  have short : Canonical (sampleEntries.get ⟨1, by decide⟩) :=
    { header := by decide
      description := ⟨[], by decide, by decide⟩
      variants := List.forall_mem_nil _
      markup := by decide
      named := by decide
      trimmedReference := by decide
      referenceOnOneLine := by decide
      noStop := by decide }
  exact List.forall_mem_cons.mpr ⟨full, List.forall_mem_singleton.mpr short⟩

theorem ofComment_sampleEntries :
    (∀ entry ∈ sampleEntries, entry.Canonical) ∧
      ofComment (writtenAll sampleEntries) = .ok sampleEntries :=
  ⟨sampleEntries_canonical, ofComment_writtenAll sampleEntries_canonical⟩

end StyleCatalog.Entry
