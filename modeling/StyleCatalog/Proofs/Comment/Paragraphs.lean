import StyleCatalog.Comment.Paragraph
import StyleCatalog.Proofs.Text.Lines

/-! # Paragraphs of a text

A blank line separates paragraphs whatever stands around it: `ofText_append` holds for any two
texts. So the paragraphs of a text that was put together from tidy ones are these.
-/

namespace StyleCatalog

namespace Text

/-! ## Line ends are white space -/

theorem lineBody_append_blank (run : Text) :
    ∃ ending : Text, ending.isBlankLine = true ∧ run = lineBody run ++ ending := by
  rw [lineBody]
  split
  · rename_i rest shape
    exact ⟨['\r', '\n'], by decide, by rw [← run.reverse_reverse, shape]; simp⟩
  · rename_i rest _ shape
    exact ⟨['\n'], by decide, by rw [← run.reverse_reverse, shape]; simp⟩
  · exact ⟨[], rfl, (List.append_nil run).symm⟩

theorem isBlankLine_lineBody (run : Text) : (lineBody run).isBlankLine = run.isBlankLine := by
  rcases lineBody_append_blank run with ⟨ending, blank, shape⟩
  conv => rhs; rw [shape]
  rw [isBlankLine_append, blank, Bool.and_true]

theorem trimEnd_lineBody (run : Text) : (lineBody run).trimEnd = run.trimEnd := by
  rcases lineBody_append_blank run with ⟨ending, blank, shape⟩
  conv => rhs; rw [shape]
  exact (trimEnd_append_of_isBlankLine _ blank).symm

end Text

namespace Paragraph

theorem collect_map_lineBody (current : Paragraph) (runs : List Text) :
    collect current (runs.map Text.lineBody) = collect current runs := by
  induction runs generalizing current with
  | nil => rfl
  | cons run rest induction =>
      rw [List.map_cons, collect, collect, Text.isBlankLine_lineBody, Text.trimEnd_lineBody,
        induction, induction]

theorem ofText_eq_collect_lineRuns (t : Text) : ofText t = collect [] t.lineRuns :=
  collect_map_lineBody [] t.lineRuns

/-! ## A blank line separates -/

theorem collect_blank {line : Text} (blank : line.isBlankLine = true) (current : Paragraph)
    (rest : List Text) : collect current (line :: rest) = finish current ++ collect [] rest := by
  rw [collect, if_pos blank]

theorem collect_solid {line : Text} (solid : line.isBlankLine = false) (current : Paragraph)
    (rest : List Text) :
    collect current (line :: rest) = collect (current ++ [line.trimEnd]) rest := by
  rw [collect, if_neg (Bool.eq_false_iff.mp solid)]

theorem collect_cons_append_gap {gap : Text} (blank : gap.isBlankLine = true) (current : Paragraph)
    (body : Text) (rest : List Text) :
    collect current ((body ++ gap) :: rest) = collect current (body :: rest) := by
  rw [collect, collect, Text.isBlankLine_append, blank, Bool.and_true,
    Text.trimEnd_append_of_isBlankLine body blank]

theorem collect_cons_append_feed (current : Paragraph) (body : Text) (rest : List Text) :
    collect current ((body ++ ['\n']) :: rest) = collect current (body :: rest) :=
  collect_cons_append_gap (by decide) current body rest

theorem collect_append_blank_line {lines : List Text} (whole : WholeLines lines)
    (current : Paragraph) (t : Text) :
    collect current (Text.lineRuns (lines.flatten ++ '\n' :: '\n' :: t)) =
      collect current lines ++ collect [] t.lineRuns := by
  have feedBlank : Text.isBlankLine ['\n'] = true := by decide
  have feed (rest : Text) : Text.lineRuns ('\n' :: rest) = ['\n'] :: Text.lineRuns rest :=
    Text.lineRuns_append_newline List.not_mem_nil rest
  induction whole generalizing current with
  | nil =>
      rw [List.flatten_nil, List.nil_append, feed, feed, collect_blank feedBlank,
        collect_blank feedBlank]
      rfl
  | @last body some free =>
      rw [List.flatten_singleton, Text.lineRuns_append_newline free, feed,
        collect_cons_append_feed]
      cases blank : body.isBlankLine with
      | true =>
          rw [collect_blank blank, collect_blank blank, collect_blank feedBlank,
            List.append_assoc]
          rfl
      | false =>
          rw [collect_solid blank, collect_solid blank, collect_blank feedBlank]
          rfl
  | @cons body rest free whole induction =>
      have shape : ((body ++ ['\n']) :: rest).flatten ++ '\n' :: '\n' :: t =
          body ++ '\n' :: (rest.flatten ++ '\n' :: '\n' :: t) := by simp
      rw [shape, Text.lineRuns_append_newline free, collect_cons_append_feed,
        collect_cons_append_feed]
      cases blank : body.isBlankLine with
      | true => rw [collect_blank blank, collect_blank blank, induction, List.append_assoc]
      | false => rw [collect_solid blank, collect_solid blank, induction]

/-- Two texts with a blank line between them have the paragraphs of both. -/
theorem ofText_append (t u : Text) :
    ofText (t ++ "\n\n".toList ++ u) = ofText t ++ ofText u := by
  have separated := collect_append_blank_line (Text.wholeLines_lineRuns t) [] u
  rw [Text.flatten_lineRuns] at separated
  rw [ofText_eq_collect_lineRuns, ofText_eq_collect_lineRuns t, ofText_eq_collect_lineRuns u,
    ← separated, List.append_assoc]
  rfl

theorem ofText_intercalate (texts : List Text) :
    ofText (List.intercalate "\n\n".toList texts) = texts.flatMap ofText := by
  induction texts with
  | nil => rfl
  | cons first rest induction =>
      cases rest with
      | nil => simp
      | cons second others =>
          rw [List.intercalate_cons_cons, ofText_append, induction]
          rfl

end Paragraph

/-! ## Tidy texts -/

/-- A text that is one paragraph and is trimmed. It is not empty, since the empty text is one blank
line; and no carriage return ends a line of it, since that is white space. -/
structure Text.Tidy (t : Text) : Prop where
  trimmed : t.trim = t
  solid : ∀ line ∈ t.splitAtChar '\n', line.isBlankLine = false
  flush : ∀ line ∈ t.splitAtChar '\n', line.trimEnd = line

instance (t : Text) : Decidable t.Tidy :=
  decidable_of_iff (t.trim = t ∧ (∀ line ∈ t.splitAtChar '\n', line.isBlankLine = false) ∧
      ∀ line ∈ t.splitAtChar '\n', line.trimEnd = line)
    ⟨fun ⟨trimmed, solid, flush⟩ => ⟨trimmed, solid, flush⟩,
      fun ⟨trimmed, solid, flush⟩ => ⟨trimmed, solid, flush⟩⟩

theorem Text.Tidy.ne_nil {t : Text} (tidy : t.Tidy) : t ≠ [] := by
  rintro rfl
  cases tidy.solid [] List.mem_cons_self

theorem Text.Tidy.isBlankLine_eq_false {t : Text} (tidy : t.Tidy) : t.isBlankLine = false := by
  rw [← Bool.not_eq_true]
  intro blank
  have flush := (Text.trim_eq_self_iff.mp tidy.trimmed).2
  exact tidy.ne_nil (Text.eq_nil_of_isBlankLine flush blank)

theorem Text.Tidy.first_ne_nil {t first : Text} {more : List Text} (tidy : t.Tidy)
    (split : t.splitAtChar '\n' = first :: more) : first ≠ [] := by
  rintro rfl
  cases tidy.solid [] (by simp [split])

namespace Paragraph

theorem collect_lineRuns_unlines {lines : List Text} (free : ∀ line ∈ lines, '\n' ∉ line)
    (current : Paragraph) :
    collect current (Text.lineRuns (Text.unlines lines)) = collect current lines := by
  induction lines generalizing current with
  | nil => rfl
  | cons line rest induction =>
      rw [List.forall_mem_cons] at free
      cases rest with
      | nil =>
          rw [Text.unlines_singleton]
          by_cases empty : line = []
          · subst empty
            exact (List.append_nil _).symm
          · rw [Text.lineRuns_of_not_mem empty free.1]
      | cons second others =>
          rw [Text.lineRuns_unlines_cons free.1, collect_cons_append_feed]
          cases blank : line.isBlankLine with
          | true => rw [collect_blank blank, collect_blank blank, induction free.2]
          | false => rw [collect_solid blank, collect_solid blank, induction free.2]

/-- Joined lines have the paragraphs of the lines. -/
theorem ofText_unlines_eq_collect {lines : List Text} (free : ∀ line ∈ lines, '\n' ∉ line) :
    ofText (Text.unlines lines) = collect [] lines := by
  rw [ofText_eq_collect_lineRuns, collect_lineRuns_unlines free]

theorem collect_of_solid {lines : List Text} (current : Paragraph)
    (nonempty : current ++ lines ≠ []) (solid : ∀ line ∈ lines, line.isBlankLine = false)
    (flush : ∀ line ∈ lines, line.trimEnd = line) :
    collect current lines = [current ++ lines] := by
  induction lines generalizing current with
  | nil =>
      rw [List.append_nil] at nonempty ⊢
      simp [collect, finish, nonempty]
  | cons line rest induction =>
      rw [List.forall_mem_cons] at solid flush
      rw [collect_solid solid.1, flush.1, induction _ (by simp) solid.2 flush.2, List.append_assoc,
        List.singleton_append]

/-- Lines that are not blank and have no white space at their ends are one paragraph. -/
theorem ofText_unlines {lines : List Text} (nonempty : lines ≠ [])
    (free : ∀ line ∈ lines, '\n' ∉ line) (solid : ∀ line ∈ lines, line.isBlankLine = false)
    (flush : ∀ line ∈ lines, line.trimEnd = line) : ofText (Text.unlines lines) = [lines] := by
  rw [ofText_unlines_eq_collect free, collect_of_solid [] nonempty solid flush, List.nil_append]

theorem text_splitAtChar (t : Text) : Paragraph.text (t.splitAtChar '\n') = t :=
  Text.intercalate_splitAtChar '\n' t

theorem ofText_tidy {t : Text} (tidy : t.Tidy) : ofText t = [t.splitAtChar '\n'] := by
  have lines := ofText_unlines (Text.splitAtChar_ne_nil '\n' t)
    (fun line => Text.not_mem_of_mem_splitAtChar) tidy.solid tidy.flush
  rwa [Text.unlines, Text.intercalate_splitAtChar] at lines

end Paragraph

end StyleCatalog
