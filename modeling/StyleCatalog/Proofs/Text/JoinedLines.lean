import StyleCatalog.Proofs.Comment.Paragraphs
import StyleCatalog.Proofs.Text.LineEnds

/-! # Joined lines

Lines that hold no line end come back from the text they are joined to, but for an empty last one.
Trimming that text drops empty lines at its two ends and moves its first line to the margin.
-/

namespace StyleCatalog.Text

theorem unlines_concat {before : List Text} (some : before ≠ []) (line : Text) :
    unlines (before ++ [line]) = unlines before ++ '\n' :: line := by
  rw [unlines, intercalate_append _ some (List.cons_ne_nil _ _), List.intercalate_singleton]
  rfl

theorem mem_of_mem_unlines {lines : List Text} {c : Char} (noFeed : c ≠ '\n')
    (member : c ∈ unlines lines) : ∃ line ∈ lines, c ∈ line := by
  induction lines with
  | nil => cases member
  | cons line rest induction =>
      cases rest with
      | nil => exact ⟨line, List.mem_cons_self, by rwa [unlines_singleton] at member⟩
      | cons next others =>
          rw [unlines_cons_cons, List.mem_append, List.mem_cons] at member
          rcases member with here | feed | later
          · exact ⟨line, List.mem_cons_self, here⟩
          · exact absurd feed noFeed
          · rcases induction later with ⟨other, inRest, inside⟩
            exact ⟨other, List.mem_cons_of_mem line inRest, inside⟩

/-! ## Lines of joined lines -/

theorem isInfix_of_mem_lines {t line : Text} (member : line ∈ t.lines) : line <:+: t := by
  rcases List.mem_map.mp member with ⟨run, inRuns, rfl⟩
  rcases lineBody_append_blank run with ⟨ending, -, shape⟩
  have within : run <:+: t := flatten_lineRuns t ▸ List.infix_of_mem_flatten inRuns
  exact List.IsInfix.trans (List.IsPrefix.isInfix ⟨ending, shape.symm⟩) within

theorem lines_of_not_mem {line : Text} (some : line ≠ []) (noFeed : '\n' ∉ line) :
    lines line = [line] := by
  rw [lines, lineRuns_of_not_mem some noFeed, List.map_singleton, lineBody_of_not_mem noFeed]

theorem lines_unlines_concat {before : List Text} (inline : ∀ line ∈ before, IsInline line)
    (last : Text) : lines (unlines (before ++ [last])) = before ++ lines last := by
  induction before with
  | nil => rw [List.nil_append, unlines_singleton, List.nil_append]
  | cons line rest induction =>
      rw [List.forall_mem_cons] at inline
      have whole : unlines (line :: rest ++ [last]) = line ++ '\n' :: unlines (rest ++ [last]) := by
        cases rest <;> exact unlines_cons_cons _ _ _
      rw [whole, lines_append_newline inline.1.2 inline.1.1, induction inline.2, List.cons_append]

theorem lines_unlines {kept : List Text} (inline : ∀ line ∈ kept, IsInline line)
    (some : ∀ line ∈ kept, line ≠ []) : lines (unlines kept) = kept := by
  rcases List.eq_nil_or_concat' kept with rfl | ⟨before, last, rfl⟩
  · rfl
  · rw [List.forall_mem_append, List.forall_mem_singleton] at inline some
    rw [lines_unlines_concat inline.1, lines_of_not_mem some.2 inline.2.2]

theorem lines_unlines_subset {kept : List Text} (inline : ∀ line ∈ kept, IsInline line) :
    lines (unlines kept) ⊆ kept := by
  rcases List.eq_nil_or_concat' kept with rfl | ⟨before, last, rfl⟩
  · exact List.Subset.refl _
  · rw [List.forall_mem_append, List.forall_mem_singleton] at inline
    rw [lines_unlines_concat inline.1]
    by_cases empty : last = []
    · rw [empty]
      simp [lines, lineRuns]
    · rw [lines_of_not_mem empty inline.2.2]
      exact List.Subset.refl _

theorem unlines_map_lineBody {runs : List Text} (whole : WholeLines runs)
    (noReturn : '\r' ∉ runs.flatten) (noFeed : runs.flatten.getLast? ≠ some '\n') :
    unlines (runs.map lineBody) = runs.flatten := by
  induction whole with
  | nil => rfl
  | last some free =>
      rw [List.map_singleton, lineBody_of_not_mem free, unlines_singleton,
        List.flatten_singleton]
  | @cons body rest free whole induction =>
      rw [List.flatten_cons, List.mem_append, not_or] at noReturn
      have notLast : body.getLast? ≠ some '\r' := fun last =>
        noReturn.1 (List.mem_append_left _ (List.mem_of_getLast? last))
      cases rest with
      | nil => exact absurd (by simp) noFeed
      | cons next others =>
          have more : (next :: others).flatten ≠ [] := by
            cases whole with
            | last some free => simpa using some
            | cons free whole => simp
          rw [List.flatten_cons, List.getLast?_append_of_ne_nil _ more] at noFeed
          rw [List.map_cons, List.map_cons, unlines_cons_cons, ← List.map_cons,
            induction noReturn.2 noFeed, lineBody_append_newline notLast]
          simp

/-- A text that ends in no line feed and holds no carriage return is the join of its lines. -/
theorem unlines_lines {t : Text} (noReturn : '\r' ∉ t) (noFeed : t.getLast? ≠ some '\n') :
    unlines t.lines = t := by
  have joined := unlines_map_lineBody (wholeLines_lineRuns t)
  rw [flatten_lineRuns] at joined
  exact joined noReturn noFeed

/-! ## Trimming joined lines -/

theorem trimEnd_eq_self_of_isSuffix {t u : Text} (ends : u <:+ t) (finish : t.trimEnd = t) :
    u.trimEnd = u := by
  by_cases some : u = []
  · rw [some]
    rfl
  · rcases ends with ⟨before, rfl⟩
    rw [trimEnd_eq_self_iff] at finish ⊢
    rwa [List.getLast?_append_of_ne_nil _ some] at finish

/-- Trimming the end drops empty lines. -/
theorem exists_trimEnd_unlines {written : List Text}
    (flush : ∀ line ∈ written, line.trimEnd = line) :
    ∃ kept, kept <+: written ∧ (unlines written).trimEnd = unlines kept := by
  induction written using List.reverseRecOn with
  | nil => exact ⟨[], List.prefix_rfl, rfl⟩
  | append_singleton before last induction =>
      rw [List.forall_mem_append, List.forall_mem_singleton] at flush
      by_cases first : before = []
      · refine ⟨before ++ [last], List.prefix_rfl, ?_⟩
        rw [first, List.nil_append, unlines_singleton, flush.2]
      · by_cases empty : last = []
        · rcases induction flush.1 with ⟨kept, within, trimmed⟩
          refine ⟨kept, within.trans (List.prefix_append _ _), ?_⟩
          rw [unlines_concat first, empty, trimEnd_append_of_isBlankLine _ (by decide), trimmed]
        · refine ⟨before ++ [last], List.prefix_rfl, ?_⟩
          have split : unlines before ++ '\n' :: last = unlines before ++ ['\n'] ++ last := by simp
          rw [unlines_concat first, split, trimEnd_append_of_ne_nil _ empty flush.2]

/-- Trimming the start drops empty lines and moves the first line to the margin. -/
theorem exists_trimStart_unlines (written : List Text) :
    ∃ kept, (∀ line ∈ kept, ∃ whole ∈ written, line <:+ whole) ∧
      (unlines written).trimStart = unlines kept := by
  induction written with
  | nil => exact ⟨[], List.forall_mem_nil _, rfl⟩
  | cons line rest induction =>
      have margin := trimStart_isSuffix line
      cases rest with
      | nil =>
          refine ⟨[line.trimStart], ?_, ?_⟩
          · exact List.forall_mem_singleton.mpr ⟨line, List.mem_cons_self, margin⟩
          · rw [unlines_singleton, unlines_singleton]
      | cons next others =>
          rw [unlines_cons_cons]
          cases blank : line.isBlankLine with
          | true =>
              rcases induction with ⟨kept, fromRest, trimmed⟩
              refine ⟨kept, ?_, ?_⟩
              · intro piece member
                rcases fromRest piece member with ⟨whole, inRest, isSuffix⟩
                exact ⟨whole, List.mem_cons_of_mem line inRest, isSuffix⟩
              · rw [trimStart, List.dropWhile_append_of_pos (isBlankLine_iff.mp blank),
                  ← trimmed]
                exact trimStart_cons_of_blank _ (by decide)
          | false =>
              refine ⟨line.trimStart :: next :: others, ?_, ?_⟩
              · refine List.forall_mem_cons.mpr ⟨⟨line, List.mem_cons_self, margin⟩, ?_⟩
                intro piece member
                exact ⟨piece, List.mem_cons_of_mem line member, List.suffix_rfl⟩
              · rw [trimStart_append_of_solid blank, unlines_cons_cons]

/-- What trimming leaves of joined lines are joined lines again, each the end of one. -/
theorem exists_trim_unlines {written : List Text}
    (flush : ∀ line ∈ written, line.trimEnd = line) :
    ∃ kept, (∀ line ∈ kept, ∃ whole ∈ written, line <:+ whole) ∧
      (unlines written).trim = unlines kept := by
  rcases exists_trimStart_unlines written with ⟨begun, fromWritten, started⟩
  have begunFlush : ∀ line ∈ begun, line.trimEnd = line := by
    intro line member
    rcases fromWritten line member with ⟨whole, inWritten, isSuffix⟩
    exact trimEnd_eq_self_of_isSuffix isSuffix (flush whole inWritten)
  rcases exists_trimEnd_unlines begunFlush with ⟨kept, within, finished⟩
  refine ⟨kept, fun line member => fromWritten line (within.subset member), ?_⟩
  rw [trim, started, finished]

end StyleCatalog.Text
