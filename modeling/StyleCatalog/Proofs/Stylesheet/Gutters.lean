import StyleCatalog.Proofs.Comment.Paragraphs
import StyleCatalog.Proofs.Stylesheet.Closers

/-! # Comments with a gutter

The text of a block comment with a star on each line below the opener's is made up line by line,
`Comment.text_block`: from each line up to the closer, without what stands before its star.
-/

namespace StyleCatalog

open Text

/-! ## Stars down the lines -/

/-- A line that is blank or starts with a star. -/
def IsStarLine (line : Text) : Prop := line.isBlankLine = true ∨ ['*'] <+: line.trimStart

/-- A `//` comment, or a block comment with a star on each line below the opener's. -/
def Comment.IsStarred (comment : Comment) : Prop :=
  comment.style = .block → ∀ line ∈ comment.lines.tail, IsStarLine line

instance (line : Text) : Decidable (IsStarLine line) := inferInstanceAs (Decidable (_ ∨ _))

instance (comment : Comment) : Decidable comment.IsStarred := inferInstanceAs (Decidable (_ → _))

namespace Text

theorem trim_lineBody (run : Text) : (lineBody run).trim = run.trim := by
  rcases lineBody_append_blank run with ⟨ending, blank, shape⟩
  conv => rhs; rw [shape]
  exact (trim_append_of_isBlankLine _ blank).symm

theorem lineBody_isPrefix (run : Text) : lineBody run <+: run := by
  rcases lineBody_append_blank run with ⟨ending, -, shape⟩
  exact ⟨ending, shape.symm⟩

end Text

theorem IsStarLine.exists_cons {line : Text} (star : IsStarLine line)
    (solid : line.isBlankLine = false) : ∃ rest, line.trimStart = '*' :: rest := by
  rcases star with blank | ⟨rest, starts⟩
  · rw [blank] at solid
    cases solid
  · exact ⟨rest, starts.symm⟩

theorem IsStarLine.of_isPrefix {line start : Text} (star : IsStarLine line)
    (begins : start <+: line) : IsStarLine start := by
  cases blank : start.isBlankLine with
  | true => exact .inl blank
  | false =>
      rcases begins with ⟨rest, rfl⟩
      have solid : (start ++ rest).isBlankLine = false := by
        rw [isBlankLine_append, blank]
        rfl
      rcases star.exists_cons solid with ⟨more, starts⟩
      rw [trimStart_append_of_solid blank] at starts
      cases trimmed : start.trimStart with
      | nil =>
          have isBlankStart := List.dropWhile_eq_nil_iff.mp trimmed
          rw [← isBlankLine_iff, blank] at isBlankStart
          cases isBlankStart
      | cons c others =>
          rw [trimmed, List.cons_append] at starts
          rw [IsStarLine, trimmed, (List.cons.inj starts).1]
          exact .inr ⟨others, rfl⟩

namespace Comment

variable {line gap : Text}

theorem withoutGutter_of_isBlankLine (blank : line.isBlankLine = true) :
    withoutGutter line = [] := by
  rw [withoutGutter, trimStart_of_isBlankLine blank]
  exact trimEnd_of_isBlankLine blank

theorem withoutGutter_of_star {rest : Text} (starts : line.trimStart = '*' :: rest) :
    withoutGutter line = (afterOptional ' ' rest).trimEnd := by
  rw [withoutGutter, starts]
  rfl

/-- A line with a star loses what stands before it. -/
theorem withoutGutter_gap (star : IsStarLine line) (blank : gap.isBlankLine = true) :
    withoutGutter (gap ++ line) = withoutGutter line := by
  cases empty : line.isBlankLine with
  | true =>
      have both := isBlankLine_append_of_blank blank empty
      rw [withoutGutter_of_isBlankLine both, withoutGutter_of_isBlankLine empty]
  | false =>
      rcases star.exists_cons empty with ⟨rest, starts⟩
      rw [withoutGutter_of_star starts]
      exact withoutGutter_of_star ((trimStart_append_of_isBlankLine blank line).trans starts)

theorem trimEnd_afterOptional_append (mark : Char) (rest : Text) (blank : gap.isBlankLine = true) :
    (afterOptional mark (rest ++ gap)).trimEnd = (afterOptional mark rest).trimEnd := by
  cases rest with
  | nil =>
      have within := (afterOptional_isSuffix mark gap).subset
      apply trimEnd_of_isBlankLine
      exact isBlankLine_iff.mpr fun c member => isBlankLine_iff.mp blank c (within member)
  | cons c more =>
      rw [List.cons_append, afterOptional, afterOptional]
      split
      · exact trimEnd_append_of_isBlankLine more blank
      · exact trimEnd_append_of_isBlankLine (c :: more) blank

theorem withoutGutter_append_gap (star : IsStarLine line) (blank : gap.isBlankLine = true) :
    withoutGutter (line ++ gap) = withoutGutter line := by
  cases empty : line.isBlankLine with
  | true =>
      have both := isBlankLine_append_of_blank empty blank
      rw [withoutGutter_of_isBlankLine both, withoutGutter_of_isBlankLine empty]
  | false =>
      rcases star.exists_cons empty with ⟨rest, starts⟩
      have longer : (line ++ gap).trimStart = '*' :: (rest ++ gap) := by
        rw [trimStart_append_of_solid empty, starts, List.cons_append]
      rw [withoutGutter_of_star longer, withoutGutter_of_star starts,
        trimEnd_afterOptional_append ' ' rest blank]

theorem withoutGutter_lineBody (star : IsStarLine line) :
    withoutGutter (lineBody line) = withoutGutter line := by
  rcases lineBody_append_blank line with ⟨ending, blank, shape⟩
  have bodyStar := star.of_isPrefix (lineBody_isPrefix line)
  conv => rhs; rw [shape]
  exact (withoutGutter_append_gap bodyStar blank).symm

end Comment

/-! ## The text of a comment, line by line -/

/-- Blank lines below do not show once the lines are moved to the left. -/
theorem dedent_append_blanks {blanks : List Text} (blank : ∀ line ∈ blanks, line.isBlankLine = true)
    (lines : List Text) : dedent (lines ++ blanks) = dedent lines := by
  have kept : withoutOuterBlanks (lines ++ blanks) = withoutOuterBlanks lines := by
    have below : ∀ line ∈ blanks.reverse, line.isBlankLine = true :=
      fun line member => blank line (List.mem_reverse.mp member)
    have alone : blanks.dropWhile isBlankLine = [] := List.dropWhile_eq_nil_iff.mpr blank
    rw [withoutOuterBlanks, List.dropWhile_append]
    split
    · rename_i none
      rw [alone, withoutOuterBlanks, List.isEmpty_iff.mp none]
    · rw [List.reverse_append, List.dropWhile_append_of_pos below, withoutOuterBlanks]
  rw [dedent, kept, dedent]

theorem IsLine.of_isPrefix {line start : Text} (isLine : IsLine line) (begins : start <+: line) :
    IsLine start := by
  rcases isLine with ⟨body, free, rfl⟩ | free
  · rcases List.prefix_concat_iff.mp begins with rfl | within
    · exact .inl ⟨body, free, rfl⟩
    · exact .inr fun member => free (within.subset member)
  · exact .inr fun member => free (begins.subset member)

theorem IsLine.lines_eq {line : Text} (isLine : IsLine line) (nonempty : line ≠ []) :
    line.lines = [lineBody line] := by
  have runs : lineRuns line = [line] := by
    rcases isLine with ⟨body, free, rfl⟩ | free
    · exact lineRuns_append_newline free []
    · exact lineRuns_of_not_mem nonempty free
  rw [lines, runs, List.map_singleton]

theorem IsLine.exists_lines {line : Text} (isLine : IsLine line) :
    ∃ blanks : List Text, (∀ other ∈ blanks, other.isBlankLine = true) ∧
      [lineBody line] = line.lines ++ blanks := by
  by_cases empty : line = []
  · subst empty
    exact ⟨[[]], List.forall_mem_singleton.mpr rfl, rfl⟩
  · exact ⟨[], List.forall_mem_nil _, by rw [isLine.lines_eq empty, List.append_nil]⟩

namespace Comment

/-- The lines up to the first closer can be found one by one. A last line that is nothing but the
closer leaves no line behind. -/
theorem exists_lines_beforeCloser {below : List Text} (whole : WholeLines below)
    (unclosed : ∀ line ∈ below.dropLast, ¬"*/".toList <:+: line) :
    ∃ blanks : List Text, (∀ line ∈ blanks, line.isBlankLine = true) ∧
      below.map (fun line => lineBody (beforeCloser line)) =
        (beforeCloser below.flatten).lines ++ blanks := by
  induction whole with
  | nil => exact ⟨[], List.forall_mem_nil _, rfl⟩
  | @last body some free =>
      have isLine : IsLine body := .inr free
      rw [List.map_singleton, List.flatten_singleton]
      exact (isLine.of_isPrefix (beforeCloser_isPrefix body)).exists_lines
  | @cons body rest free whole induction =>
      cases rest with
      | nil =>
          have isLine : IsLine (body ++ ['\n']) := .inl ⟨body, free, rfl⟩
          rw [List.map_singleton, List.flatten_singleton]
          exact (isLine.of_isPrefix (beforeCloser_isPrefix _)).exists_lines
      | cons next others =>
          rw [List.dropLast_cons_cons, List.forall_mem_cons] at unclosed
          rcases induction unclosed.2 with ⟨blanks, blank, later⟩
          have first : (beforeCloser ((body ++ ['\n']) ++ (next :: others).flatten)).lines =
              lineBody (body ++ ['\n']) :: (beforeCloser (next :: others).flatten).lines := by
            rw [beforeCloser_append unclosed.1 (by simp), Text.lines, List.append_assoc,
              List.singleton_append, lineRuns_append_newline free]
            rfl
          refine ⟨blanks, blank, ?_⟩
          rw [List.map_cons, later, beforeCloser_of_free unclosed.1]
          exact congrArg (· ++ blanks) first.symm

/-- What the opener's line says. -/
def openerText (inside : Text) : Text := (beforeCloser (inside.dropWhile (· = '*'))).trim

theorem blockInside_openerLine {gap : Text} (blank : gap.isBlankLine = true) (inside rest : Text) :
    blockInside (openerLine gap inside ++ rest) =
      beforeCloser ((inside ++ rest).dropWhile (· = '*')) := by
  rw [blockInside_eq, openerLine, List.append_assoc, List.append_assoc, afterOpener_gap blank]

theorem dropWhile_append_cons {p : Char → Bool} {c : Char} (stays : p c = false) (t u : Text) :
    (t ++ c :: u).dropWhile p = t.dropWhile p ++ c :: u := by
  induction t with
  | nil => rw [List.nil_append, List.dropWhile_cons_of_neg (by simp [stays]), List.dropWhile_nil,
      List.nil_append]
  | cons d rest induction =>
      rw [List.cons_append, List.dropWhile_cons, List.dropWhile_cons, induction]
      split <;> rfl

theorem blockLines_of_isLine {raw : Text} (isLine : IsLine (blockInside raw)) :
    blockLines raw = [(blockInside raw).trim] := by
  rw [blockLines]
  by_cases empty : blockInside raw = []
  · rw [empty]
    rfl
  · rw [isLine.lines_eq empty, ← trim_lineBody]
    rfl

theorem hasGutter_of_isStarLine {lines : List Text} (star : ∀ line ∈ lines, IsStarLine line) :
    hasGutter lines = true := by
  rw [hasGutter, List.all_eq_true]
  intro line member
  rw [List.mem_filter] at member
  rcases star line member.1 with blank | starts
  · rw [blank] at member
    exact absurd member.2 (by decide)
  · exact startsWith_iff.mpr starts

theorem blockLines_of_cons {raw first : Text} {rest : List Text}
    (cut : (blockInside raw).lines = first :: rest) (gutter : hasGutter rest = true) :
    blockLines raw = first.trim :: rest.map withoutGutter := by
  rw [blockLines, cut]
  change _ :: (if hasGutter rest then _ else _) = _
  rw [gutter, if_pos rfl]

section Lines

variable {gap inside : Text} {below : List Text}

/-- The lines inside a comment that goes on below its opener's line. -/
theorem lines_blockInside {body : Text} (blank : gap.isBlankLine = true) (noFeed : '\n' ∉ body)
    (unclosed : ¬"*/".toList <:+: body ++ ['\n']) (rest : Text) :
    (blockInside (openerLine gap (body ++ ['\n']) ++ rest)).lines =
      lineBody (body.dropWhile (· = '*') ++ ['\n']) :: (beforeCloser rest).lines := by
  have left : body.dropWhile (· = '*') <:+ body := List.dropWhile_suffix _
  have withFeed : body.dropWhile (· = '*') ++ ['\n'] <:+ body ++ ['\n'] :=
    (List.suffix_append_inj_of_length_eq rfl).mpr ⟨left, rfl⟩
  have leftFree : ¬"*/".toList <:+: body.dropWhile (· = '*') ++ ['\n'] :=
    fun closes => unclosed (closes.trans withFeed.isInfix)
  rw [blockInside_openerLine blank, List.append_assoc, List.singleton_append,
    dropWhile_append_cons (by decide), List.append_cons, beforeCloser_append leftFree (by simp),
    Text.lines, List.append_assoc, List.singleton_append,
    lineRuns_append_newline fun member => noFeed (left.subset member)]
  rfl

theorem openerText_terminated {body : Text} (unclosed : ¬"*/".toList <:+: body ++ ['\n']) :
    openerText (body ++ ['\n']) = (lineBody (body.dropWhile (· = '*') ++ ['\n'])).trim := by
  have left : (body ++ ['\n']).dropWhile (· = '*') <:+ body ++ ['\n'] := List.dropWhile_suffix _
  have leftFree : ¬"*/".toList <:+: (body ++ ['\n']).dropWhile (· = '*') :=
    fun closes => unclosed (closes.trans left.isInfix)
  rw [openerText, beforeCloser_of_free leftFree, dropWhile_append_cons (by decide), trim_lineBody]

/-- The lines of a comment with a gutter, up to blank ones at the end. -/
theorem exists_blockLines (block : IsBlock gap inside below)
    (whole : WholeLines (openerLine gap inside :: below))
    (star : ∀ line ∈ below, IsStarLine line) :
    ∃ blanks : List Text, (∀ line ∈ blanks, line.isBlankLine = true) ∧
      openerText inside :: below.map (fun line => withoutGutter (beforeCloser line)) =
        blockLines (openerLine gap inside :: below).flatten ++ blanks := by
  cases below with
  | nil =>
      have isLine := whole.isLine_behind_opener inside List.mem_cons_self
      have inner : inside.dropWhile (· = '*') <:+ inside := List.dropWhile_suffix _
      have opener := blockInside_openerLine block.blank inside []
      rw [List.append_nil, List.append_nil] at opener
      have alone := (isLine.of_isSuffix inner).of_isPrefix (beforeCloser_isPrefix _)
      rw [← opener] at alone
      refine ⟨[], List.forall_mem_nil _, ?_⟩
      rw [List.flatten_singleton, blockLines_of_isLine alone, opener]
      rfl
  | cons next others =>
      have unclosed := block.unclosed
      rw [List.dropLast_cons_cons, List.forall_mem_cons] at unclosed
      have terminated := whole.isTerminated_behind_opener inside (by simp)
      rcases terminated with ⟨body, noFeed, rfl⟩
      have wholeBelow := whole.of_cons
      rcases exists_lines_beforeCloser wholeBelow unclosed.2 with ⟨blanks, blank, found⟩
      have cut := lines_blockInside block.blank noFeed unclosed.1 (next :: others).flatten
      rw [← List.flatten_cons] at cut
      have starBefore : ∀ line ∈ next :: others, IsStarLine (beforeCloser line) :=
        fun line member => (star line member).of_isPrefix (beforeCloser_isPrefix line)
      have starLines : ∀ line ∈ (beforeCloser (next :: others).flatten).lines, IsStarLine line := by
        intro line member
        have inFound := List.mem_append_left blanks member
        rw [← found] at inFound
        rcases List.mem_map.mp inFound with ⟨written, isBelow, rfl⟩
        exact (starBefore written isBelow).of_isPrefix (lineBody_isPrefix _)
      refine ⟨blanks.map withoutGutter, ?_, ?_⟩
      · intro line member
        rcases List.mem_map.mp member with ⟨written, isBlanks, rfl⟩
        rw [withoutGutter_of_isBlankLine (blank written isBlanks)]
        rfl
      · rw [blockLines_of_cons cut (hasGutter_of_isStarLine starLines),
          openerText_terminated unclosed.1, List.cons_append, ← List.map_append, ← found,
          List.map_map]
        apply congrArg
        apply List.map_congr_left
        intro line member
        exact (withoutGutter_lineBody (starBefore line member)).symm

/-- The text of a comment with a gutter, line by line. -/
theorem text_block (block : IsBlock gap inside below)
    (whole : WholeLines (openerLine gap inside :: below))
    (star : ∀ line ∈ below, IsStarLine line) :
    text ⟨.block, openerLine gap inside :: below⟩ =
      unlines (dedent (openerText inside ::
        below.map fun line => withoutGutter (beforeCloser line))) := by
  rcases exists_blockLines block whole star with ⟨blanks, blank, found⟩
  rw [found, dedent_append_blanks blank]
  rfl

end Lines

end Comment

end StyleCatalog
