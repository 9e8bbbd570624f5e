import StyleCatalog.Proofs.Comment.Joining
import StyleCatalog.Proofs.Text.Replacing
import StyleCatalog.Stylesheet.Comment

/-! # Detecting a comment that documents a section

Whether a comment documents a section is asked line by line, before its paragraphs are known and
while its line ends are still there. No paragraph names a reference without being detected:
`ofComment_of_silent`.
-/

namespace StyleCatalog

/-! ## White space is no part of a word -/

/-- The code points of inclusive ranges, one by one. -/
def codesIn (ranges : List (Nat × Nat)) : List Nat :=
  ranges.flatMap fun range => List.range' range.1 (range.2 + 1 - range.1)

theorem mem_codesIn {ranges : List (Nat × Nat)} {code : Nat}
    (inside : inRanges ranges code = true) : code ∈ codesIn ranges := by
  rcases List.any_eq_true.mp inside with ⟨range, member, within⟩
  have bounds : range.1 ≤ code ∧ code ≤ range.2 := by simpa using within
  refine List.mem_flatMap.mpr ⟨range, member, ?_⟩
  rw [List.mem_range'_1]
  omega

theorem forall_blank {P : Char → Prop}
    (each : ∀ code ∈ codesIn whiteSpaceRanges, P (Char.ofNat code)) {c : Char}
    (blank : isBlank c = true) : P c := by
  rw [← Char.ofNat_toNat c]
  exact each c.toNat (mem_codesIn blank)

theorem isWord_of_isBlank {c : Char} (blank : isBlank c = true) : isWord c = false :=
  forall_blank (P := fun c => isWord c = false) (by decide +kernel) blank

theorem toLower_of_isBlank {c : Char} (blank : isBlank c = true) : c.toLower = c :=
  forall_blank (P := fun c => c.toLower = c) (by decide +kernel) blank

/-- No letter is written as white space. -/
theorem isCaseOf_of_isBlank {letter c : Char} (solid : isBlank letter = false)
    (blank : isBlank c = true) : isCaseOf letter c = false := by
  have different {other : Char} (otherSolid : isBlank other = false) : c ≠ other := by
    intro same
    rw [same, otherSolid] at blank
    cases blank
  have noLongS : c ≠ 'ſ' := different (by decide)
  have noKelvin : c ≠ '\u212A' := different (by decide)
  simp [isCaseOf, toLower_of_isBlank blank, different solid, noLongS, noKelvin]

/-! ## Lines that start with the word -/

/-- A line that starts with the word for a reference, white space before it aside. -/
def startsReference (line : Text) : Bool :=
  (Text.afterWord? "styleguide".toList line.trimStart).isSome

namespace Text

/-- White space at the end of a text goes to what follows the keyword. -/
theorem afterKeyword?_append_gap {keyword gap : Text}
    (apart : ∀ c ∈ gap, ∀ letter ∈ keyword, isCaseOf letter c = false) (t : Text) :
    afterKeyword? keyword (t ++ gap) = (afterKeyword? keyword t).map (· ++ gap) := by
  induction keyword generalizing t with
  | nil => rfl
  | cons letter rest induction =>
      have later : ∀ c ∈ gap, ∀ other ∈ rest, isCaseOf other c = false :=
        fun c member other inRest => apart c member other (List.mem_cons_of_mem letter inRest)
      cases t with
      | nil =>
          cases gap with
          | nil => rfl
          | cons c more =>
              have differs := apart c List.mem_cons_self letter List.mem_cons_self
              change (if isCaseOf letter c then _ else _) = none
              rw [differs]
              rfl
      | cons c more =>
          rw [List.cons_append, afterKeyword?, afterKeyword?, induction later]
          split <;> rfl

theorem isSome_afterWord?_append_gap {keyword gap : Text}
    (apart : ∀ c ∈ gap, ∀ letter ∈ keyword, isCaseOf letter c = false)
    (noWord : ∀ c ∈ gap, isWord c = false) (t : Text) :
    (afterWord? keyword (t ++ gap)).isSome = (afterWord? keyword t).isSome := by
  rw [afterWord?, afterKeyword?_append_gap apart, afterWord?]
  cases afterKeyword? keyword t with
  | none => rfl
  | some rest =>
      cases rest with
      | cons c more =>
          change Option.isSome (if _ then _ else _) = Option.isSome (if _ then _ else _)
          split <;> rfl
      | nil =>
          cases gap with
          | nil => rfl
          | cons c more =>
              change Option.isSome (if _ then _ else _) = true
              rw [noWord c List.mem_cons_self]
              rfl

end Text

theorem startsReference_append_gap {gap : Text} (blank : gap.isBlankLine = true) (line : Text) :
    startsReference (line ++ gap) = startsReference line := by
  have isBlankGap := Text.isBlankLine_iff.mp blank
  cases lineBlank : line.isBlankLine with
  | true =>
      have both := Text.isBlankLine_append_of_blank lineBlank blank
      rw [startsReference, Text.trimStart_of_isBlankLine both, startsReference,
        Text.trimStart_of_isBlankLine lineBlank]
  | false =>
      have solidWord : "styleguide".toList.any isBlank = false := by decide
      rw [List.any_eq_false] at solidWord
      rw [startsReference, Text.trimStart_append_of_solid lineBlank, startsReference]
      apply Text.isSome_afterWord?_append_gap
      · intro c member letter inWord
        have solid := Bool.eq_false_iff.mpr (solidWord letter inWord)
        exact isCaseOf_of_isBlank solid (isBlankGap c member)
      · exact fun c member => isWord_of_isBlank (isBlankGap c member)

theorem startsReference_trimEnd (line : Text) :
    startsReference line.trimEnd = startsReference line := by
  rcases Text.trimEnd_append_blank line with ⟨gap, blank, shape⟩
  conv => rhs; rw [shape]
  exact (startsReference_append_gap blank line.trimEnd).symm

/-- A comment documents a section if one of its lines, line end included, starts with the word. -/
theorem declaresSection_eq_any (t : Text) :
    declaresSection t = t.lineRuns.any startsReference := by
  have whole := Text.wholeLines_lineRuns t
  conv => lhs; rw [← Text.flatten_lineRuns t]
  change (Text.splitAtChar '\n' _).any startsReference = _
  generalize t.lineRuns = runs at whole
  induction whole with
  | nil => rfl
  | last some free => rw [List.flatten_singleton, Text.splitAtChar_of_not_mem free]
  | @cons body rest free whole induction =>
      have feed : Text.isBlankLine ['\n'] = true := by decide
      rw [List.flatten_cons, List.append_assoc, List.singleton_append,
        Text.splitAtChar_append_cons, Text.splitAtChar_of_not_mem free, List.singleton_append,
        List.any_cons, List.any_cons, startsReference_append_gap feed, induction]

/-! ## Paragraphs that name a reference -/

theorem Paragraph.mem_of_mem_finish {current paragraph : Paragraph} {line : Text}
    (member : paragraph ∈ finish current) (inParagraph : line ∈ paragraph) : line ∈ current := by
  rw [finish] at member
  split at member
  · cases member
  · rwa [List.mem_singleton.mp member] at inParagraph

theorem Paragraph.mem_line_of_mem_collect {current paragraph : Paragraph} {lines : List Text}
    {line : Text} (member : paragraph ∈ collect current lines) (inParagraph : line ∈ paragraph) :
    line ∈ current ∨ ∃ written ∈ lines, line = written.trimEnd := by
  induction lines generalizing current with
  | nil =>
      rw [collect] at member
      exact .inl (mem_of_mem_finish member inParagraph)
  | cons first rest induction =>
      have later {next : Paragraph} (found : paragraph ∈ collect next rest) :
          line ∈ next ∨ ∃ written ∈ first :: rest, line = written.trimEnd := by
        rcases induction found with held | ⟨written, inRest, same⟩
        · exact .inl held
        · exact .inr ⟨written, List.mem_cons_of_mem first inRest, same⟩
      cases blank : first.isBlankLine with
      | true =>
          rw [collect_blank blank, List.mem_append] at member
          rcases member with finished | found
          · exact .inl (mem_of_mem_finish finished inParagraph)
          · rcases later found with impossible | fromLines
            · cases impossible
            · exact .inr fromLines
      | false =>
          rw [collect_solid blank] at member
          rcases later member with held | fromLines
          · rcases List.mem_append.mp held with before | here
            · exact .inl before
            · exact .inr ⟨first, List.mem_cons_self, List.mem_singleton.mp here⟩
          · exact .inr fromLines

/-- The lines of a text's paragraphs are lines of the text without the white space at their ends. -/
theorem Paragraph.exists_lineRun {t line : Text} {paragraph : Paragraph}
    (member : paragraph ∈ ofText t) (inParagraph : line ∈ paragraph) :
    ∃ run ∈ t.lineRuns, line = run.trimEnd := by
  rw [ofText_eq_collect_lineRuns] at member
  rcases mem_line_of_mem_collect member inParagraph with impossible | found
  · cases impossible
  · exact found

namespace Entry

theorem declaresSection_of_closing {t : Text} {paragraph : Paragraph}
    (member : paragraph ∈ Paragraph.ofText t) (closes : (closing? paragraph).isSome) :
    declaresSection t = true := by
  cases paragraph with
  | nil => cases closes
  | cons first more =>
      rcases Paragraph.exists_lineRun member List.mem_cons_self with ⟨run, inRuns, rfl⟩
      have starts : startsReference run.trimEnd = true := by
        rw [startsReference, ← Option.isSome_map]
        exact closes
      rw [startsReference_trimEnd] at starts
      rw [declaresSection_eq_any, List.any_eq_true]
      exact ⟨run, inRuns, starts⟩

/-- Nothing is read from a comment in which no section is detected, not even a fault. -/
theorem ofComment_of_silent {comment : Text} (silent : declaresSection comment = false) :
    ofComment comment = .ok [] := by
  apply ofParagraphs_of_unclosed
  intro paragraph member
  rw [← Option.not_isSome_iff_eq_none]
  intro closes
  rw [declaresSection_of_closing member closes] at silent
  cases silent

/-- Each paragraph looks like one that names a reference, and a weight is no number. -/
def lookalikes : Text :=
  "See Styleguide 1\n\nWeight: heavy\n\nStyleguides\r\n\n\u00A0Styleguide_2\n\nStyle guide 3".toList

theorem lookalikes_read_nothing :
    declaresSection lookalikes = false ∧ ofComment lookalikes = .ok [] := by
  have silent : declaresSection lookalikes = false := by decide +kernel
  exact ⟨silent, ofComment_of_silent silent⟩

end Entry

end StyleCatalog
