import StyleCatalog.Proofs.Comment.Cleaning
import StyleCatalog.Proofs.Text.JoinedLines

/-! # Paragraphs of a clean comment

Trimming a text drops no paragraph and moves only the first line to the margin. So the paragraphs of
a clean comment are those of the lines that are kept, `ofText_cleanComment`.
-/

namespace StyleCatalog

open Text

namespace Paragraph

/-! ## White space around a text -/

theorem lineRuns_concat {body : Text} (free : '\n' ∉ body) (c : Char) :
    lineRuns (body ++ [c]) = [body ++ [c]] := by
  by_cases feed : c = '\n'
  · subst feed
    exact lineRuns_append_newline free []
  · exact lineRuns_of_not_mem (by simp) (by simp [free, Ne.symm feed])

theorem collect_concat_blank {c : Char} (blank : isBlank c = true) {lines : List Text}
    (whole : WholeLines lines) (current : Paragraph) :
    collect current (lineRuns (lines.flatten ++ [c])) = collect current lines := by
  have blankLine : Text.isBlankLine [c] = true := isBlankLine_iff.mpr (by simpa using blank)
  induction whole generalizing current with
  | nil =>
      rw [List.flatten_nil, List.nil_append]
      have one := lineRuns_concat List.not_mem_nil c
      rw [List.nil_append] at one
      rw [one, collect_blank blankLine]
      exact List.append_nil _
  | @last body some free =>
      rw [List.flatten_singleton, lineRuns_concat free, collect_cons_append_gap blankLine]
  | @cons body rest free whole induction =>
      have shape : ((body ++ ['\n']) :: rest).flatten ++ [c] =
          body ++ '\n' :: (rest.flatten ++ [c]) := by simp
      rw [shape, lineRuns_append_newline free, collect, collect, induction, induction]

theorem ofText_append_gap (t : Text) {gap : Text} (blank : gap.isBlankLine = true) :
    ofText (t ++ gap) = ofText t := by
  induction gap generalizing t with
  | nil => rw [List.append_nil]
  | cons c rest induction =>
      rw [isBlankLine, List.all_cons, Bool.and_eq_true] at blank
      have one := collect_concat_blank blank.1 (wholeLines_lineRuns t) []
      rw [flatten_lineRuns] at one
      have split : t ++ c :: rest = t ++ [c] ++ rest := by simp
      rw [split, induction _ blank.2, ofText_eq_collect_lineRuns, one, ofText_eq_collect_lineRuns]

/-- The paragraphs with the first line moved to the margin. -/
def toMargin : List Paragraph → List Paragraph
  | (first :: more) :: rest => (first.trimStart :: more) :: rest
  | others => others

/-- The first line of the paragraph that is being collected does not matter for the rest. -/
theorem exists_collect_cons (current : Paragraph) (lines : List Text) :
    ∃ more others, ∀ first, collect (first :: current) lines = (first :: more) :: others := by
  induction lines generalizing current with
  | nil => exact ⟨current, [], fun first => rfl⟩
  | cons line rest induction =>
      cases blank : line.isBlankLine with
      | true => exact ⟨current, collect [] rest, fun first => collect_blank blank _ _⟩
      | false =>
          rcases induction (current ++ [line.trimEnd]) with ⟨more, others, same⟩
          exact ⟨more, others, fun first => (collect_solid blank _ _).trans (same first)⟩

theorem toMargin_ofText_cons {c : Char} (blank : isBlank c = true) (t : Text) :
    toMargin (ofText (c :: t)) = toMargin (ofText t) := by
  have blankLine : Text.isBlankLine [c] = true := isBlankLine_iff.mpr (by simpa using blank)
  rw [ofText_eq_collect_lineRuns, ofText_eq_collect_lineRuns t, lineRuns]
  split
  · rw [collect_blank blankLine]
    rfl
  · split
    · rename_i none
      rw [none, collect_blank blankLine]
      rfl
    · rename_i run runs found
      have withBlank : Text.isBlankLine (c :: run) = run.isBlankLine := by
        rw [isBlankLine, List.all_cons, blank, Bool.true_and]
        rfl
      rw [found]
      cases runBlank : run.isBlankLine with
      | true => rw [collect_blank (withBlank.trans runBlank), collect_blank runBlank]
      | false =>
          rcases exists_collect_cons [] runs with ⟨more, others, same⟩
          have longer : trimEnd (c :: run) = c :: run.trimEnd :=
            trimEnd_append_of_solid [c] runBlank
          rw [collect_solid (withBlank.trans runBlank), collect_solid runBlank, longer,
            List.nil_append, List.nil_append, same, same, toMargin, toMargin,
            trimStart_cons_of_blank _ blank]

theorem toMargin_ofText_of_solid {c : Char} (solid : isBlank c = false) (t : Text) :
    toMargin (ofText (c :: t)) = ofText (c :: t) := by
  have notFeed : c ≠ '\n' := by
    rintro rfl
    cases solid
  have first : ∃ rest runs, lineRuns (c :: t) = (c :: rest) :: runs := by
    rw [lineRuns, if_neg notFeed]
    split
    · exact ⟨[], [], rfl⟩
    · exact ⟨_, _, rfl⟩
  rcases first with ⟨rest, runs, found⟩
  have lineSolid : Text.isBlankLine (c :: rest) = false := by
    rw [isBlankLine, List.all_cons, solid, Bool.false_and]
  have start : (trimEnd (c :: rest)).trimStart = trimEnd (c :: rest) :=
    trimStart_eq_self_of_isPrefix (trimEnd_isPrefix _)
      (trimStart_cons_of_not_blank rest solid)
  rcases exists_collect_cons [] runs with ⟨more, others, same⟩
  rw [ofText_eq_collect_lineRuns, found, collect_solid lineSolid, List.nil_append, same, toMargin,
    start]

theorem ofText_trimStart (t : Text) : ofText t.trimStart = toMargin (ofText t) := by
  induction t with
  | nil => rfl
  | cons c rest induction =>
      cases blank : isBlank c with
      | true => rw [trimStart_cons_of_blank _ blank, induction, toMargin_ofText_cons blank]
      | false => rw [trimStart_cons_of_not_blank _ blank, toMargin_ofText_of_solid blank]

theorem ofText_trim (t : Text) : ofText t.trim = toMargin (ofText t) := by
  rcases trimEnd_append_blank t.trimStart with ⟨gap, blank, shape⟩
  rw [trim, ← ofText_append_gap _ blank, ← shape, ofText_trimStart]

theorem collect_map_trimEnd (current : Paragraph) (lines : List Text) :
    collect current (lines.map trimEnd) = collect current lines := by
  induction lines generalizing current with
  | nil => rfl
  | cons line rest induction =>
      rw [List.map_cons, collect, collect, isBlankLine_trimEnd, trimEnd_trimEnd, induction,
        induction]

end Paragraph

open Paragraph ParameterRun

/-- The paragraphs of a clean comment are those of the kept lines, the first at the margin. -/
theorem ofText_cleanComment (marker comment : Text) :
    Paragraph.ofText (cleanComment marker comment) =
      toMargin (collect [] ((ParameterRun.ofText marker (normalizeBlanks comment)).filterMap
        toKept?)) := by
  have flushFree := newline_not_mem_map_trimEnd (withoutParameters marker (normalizeBlanks comment))
  rw [cleanComment, ofText_trim, ofText_unlines_eq_collect flushFree, collect_map_trimEnd]
  change toMargin (Paragraph.ofText (withoutParameters marker (normalizeBlanks comment))) = _
  rw [withoutParameters, ofText_unlines_eq_collect (newline_not_mem_kept marker _)]

end StyleCatalog
