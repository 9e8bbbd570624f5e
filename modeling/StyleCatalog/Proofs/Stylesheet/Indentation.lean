import StyleCatalog.Proofs.Stylesheet.Gutters

/-! # Indentation of a stylesheet

White space in front of the lines of a stylesheet does not reach the texts of its comments, as long
as a star stands on each line of a block comment below the opener's: `comments_indented`. Each line
is read as before, and each comment says what it said.
-/

namespace StyleCatalog

open Text

/-- A line of a stylesheet and the white space to be put in front of it. -/
structure IndentedLine where
  indent : Text
  line : Text
  blank : indent.isBlankLine = true
  noFeed : '\n' ∉ indent

namespace IndentedLine

def written (indented : IndentedLine) : Text := indented.indent ++ indented.line

theorem trimStart_written (indented : IndentedLine) :
    indented.written.trimStart = indented.line.trimStart :=
  trimStart_append_of_isBlankLine indented.blank indented.line

theorem isSlashLine_written_iff (slashes : Bool) (indented : IndentedLine) :
    IsSlashLine slashes indented.written ↔ IsSlashLine slashes indented.line := by
  rw [IsSlashLine, trimStart_written, IsSlashLine]

theorem closer_isInfix_written_iff (indented : IndentedLine) :
    "*/".toList <:+: indented.written ↔ "*/".toList <:+: indented.line := by
  constructor
  · intro closes
    by_contra free
    apply not_closer_isInfix_append_of_boundary (closer_free_of_isBlankLine indented.blank) free
      _ closes
    intro star
    exact absurd (List.mem_of_getLast? star) (not_mem_of_isBlankLine (by decide) indented.blank)
  · intro closes
    exact closes.trans (List.suffix_append _ _).isInfix

end IndentedLine

open IndentedLine

section Reading

variable {lines : List IndentedLine} {slashes : Bool}

theorem WholeLines.written (whole : WholeLines (lines.map line)) :
    WholeLines (lines.map written) := by
  generalize same : lines.map line = unindented at whole
  induction whole generalizing lines with
  | nil =>
      rw [List.map_eq_nil_iff.mp same]
      exact .nil
  | last nonempty free =>
      rcases List.map_eq_singleton_iff.mp same with ⟨first, rfl, rfl⟩
      apply WholeLines.last
      · exact List.append_ne_nil_of_right_ne_nil _ nonempty
      · exact List.mem_append.not.mpr (not_or.mpr ⟨first.noFeed, free⟩)
  | @cons body rest free whole induction =>
      rcases List.map_eq_cons_iff.mp same with ⟨first, more, rfl, isFirst, isRest⟩
      have shape : first.written = (first.indent ++ body) ++ ['\n'] := by
        rw [IndentedLine.written, isFirst, List.append_assoc]
      rw [List.map_cons, shape]
      apply WholeLines.cons
      · exact List.mem_append.not.mpr (not_or.mpr ⟨first.noFeed, free⟩)
      · exact induction isRest

theorem IsOpenBlock.written (opened : IsOpenBlock (lines.map line)) :
    IsOpenBlock (lines.map written) := by
  generalize same : lines.map line = unindented at opened
  induction opened generalizing lines with
  | @opener line inside opens unclosed =>
      rcases List.map_eq_singleton_iff.mp same with ⟨first, rfl, rfl⟩
      exact .opener ((trimStart_written first).trans opens) unclosed
  | @later before last opened unclosed induction =>
      rcases List.map_eq_append_iff.mp same with ⟨above, below, rfl, rfl, isLast⟩
      rcases List.map_eq_singleton_iff.mp isLast with ⟨final, rfl, rfl⟩
      rw [List.map_append]
      exact .later (induction rfl) (mt (closer_isInfix_written_iff final).mp unclosed)

theorem IsClosedBlock.written (closed : IsClosedBlock (lines.map line)) :
    IsClosedBlock (lines.map written) := by
  generalize same : lines.map line = unindented at closed
  cases closed with
  | onOneLine opens closes =>
      rcases List.map_eq_singleton_iff.mp same with ⟨first, rfl, rfl⟩
      exact .onOneLine ((trimStart_written first).trans opens) closes
  | later opened closes =>
      rcases List.map_eq_append_iff.mp same with ⟨above, below, rfl, rfl, isLast⟩
      rcases List.map_eq_singleton_iff.mp isLast with ⟨final, rfl, rfl⟩
      rw [List.map_append]
      exact .later opened.written ((closer_isInfix_written_iff final).mpr closes)

theorem IsBlock.written {gap inside : Text} (block : IsBlock gap inside (lines.map line))
    (indented : IndentedLine) : IsBlock (indented.indent ++ gap) inside (lines.map written) where
  blank := isBlankLine_append_of_blank indented.blank block.blank
  unclosed := by
    have unclosed := block.unclosed
    cases lines with
    | nil => exact List.forall_mem_nil _
    | cons next others =>
        rw [List.map_cons, List.dropLast_cons_cons, ← List.map_cons, ← List.map_dropLast,
          List.forall_mem_cons, List.forall_mem_map] at unclosed ⊢
        refine ⟨unclosed.1, fun other member => ?_⟩
        exact mt (closer_isInfix_written_iff other).mp (unclosed.2 other member)

/-- A block comment with a gutter says the same behind other white space. -/
theorem Comment.text_written (shape : IsOpenBlock (lines.map line) ∨ IsClosedBlock (lines.map line))
    (whole : WholeLines (lines.map line))
    (starred : Comment.IsStarred ⟨.block, lines.map line⟩) :
    Comment.text ⟨.block, lines.map written⟩ = Comment.text ⟨.block, lines.map line⟩ := by
  rcases exists_block shape with ⟨gap, inside, below, block, same⟩
  rcases List.map_eq_cons_iff.mp same with ⟨first, rest, rfl, opener, rfl⟩
  have star : ∀ indented ∈ rest, IsStarLine indented.line :=
    List.forall_mem_map.mp (starred rfl)
  have starWritten : ∀ indented ∈ rest, IsStarLine indented.written := by
    intro indented member
    rcases star indented member with blank | starts
    · exact .inl (isBlankLine_append_of_blank indented.blank blank)
    · rw [← trimStart_written] at starts
      exact .inr starts
  have openerWritten : first.written = openerLine (first.indent ++ gap) inside := by
    rw [IndentedLine.written, opener, openerLine, openerLine, List.append_assoc]
  have wholeWritten := whole.written
  rw [List.map_cons, opener] at whole
  rw [List.map_cons, openerWritten] at wholeWritten
  rw [List.map_cons, openerWritten, List.map_cons, opener,
    text_block block whole (List.forall_mem_map.mpr star),
    text_block (block.written first) wholeWritten (List.forall_mem_map.mpr starWritten),
    List.map_map, List.map_map]
  have sameLines : ∀ indented ∈ rest, withoutGutter (beforeCloser indented.written) =
      withoutGutter (beforeCloser indented.line) := by
    intro indented member
    have starBefore := (star indented member).of_isPrefix (beforeCloser_isPrefix _)
    rw [IndentedLine.written, beforeCloser_gap indented.blank,
      withoutGutter_gap starBefore indented.blank]
  exact congrArg (fun said => unlines (dedent (openerText inside :: said)))
    (List.map_congr_left sameLines)

theorem Comment.slashText_written (indented : IndentedLine) :
    slashText indented.written = slashText indented.line := by
  rw [slashText_eq, slashBody, afterSlashes, trimStart_written, slashText_eq, slashBody,
    afterSlashes]

end Reading

/-! ## Reading indented lines -/

/-- What the comments among the pieces of a stylesheet say. -/
def Piece.texts : List Piece → List Text
  | [] => []
  | .comment written :: rest => written.text :: texts rest
  | .code _ :: rest => texts rest

theorem Piece.texts_comment_congr {comment other : Comment} (sameText : other.text = comment.text)
    {pieces others : List Piece} (agree : texts others = texts pieces) :
    texts (.comment other :: others) = texts (.comment comment :: pieces) := by
  rw [texts, texts, sameText, agree]

/-- Indented lines are read as before, and their comments say the same. -/
theorem Reading.written {slashes : Bool} {lines : List IndentedLine} {pieces : List Piece}
    (reading : Reading slashes (lines.map line) pieces) (whole : WholeLines (lines.map line))
    (starred : ∀ comment, .comment comment ∈ pieces → comment.IsStarred) :
    ∃ others, Reading slashes (lines.map IndentedLine.written) others ∧
      Piece.texts others = Piece.texts pieces := by
  generalize same : lines.map line = unindented at reading
  induction reading generalizing lines with
  | done =>
      rw [List.map_eq_nil_iff.mp same]
      exact ⟨[], .done, rfl⟩
  | @code first unindented pieces noSlashes noBlock rest induction =>
      rcases List.map_eq_cons_iff.mp same with ⟨indented, more, rfl, rfl, isRest⟩
      have later := fun comment member => starred comment (List.mem_cons_of_mem _ member)
      rcases induction whole.of_cons later isRest with ⟨others, reading, agree⟩
      refine ⟨.code indented.written :: others, .code ?_ ?_ reading, agree⟩
      · rwa [isSlashLine_written_iff]
      · rwa [trimStart_written]
  | @slashRun run unindented pieces nonempty marked maximal rest induction =>
      rcases List.map_eq_append_iff.mp same with ⟨above, more, rfl, rfl, isRest⟩
      have later := fun comment member => starred comment (List.mem_cons_of_mem _ member)
      rw [List.map_append] at whole ⊢
      rcases induction whole.of_append.2 later isRest with ⟨others, reading, agree⟩
      have sameText : Comment.text ⟨.slashes, above.map IndentedLine.written⟩ =
          Comment.text ⟨.slashes, above.map line⟩ := by
        apply congrArg (fun stripped => unlines (dedent stripped))
        rw [List.map_map, List.map_map]
        exact List.map_congr_left fun indented _ => Comment.slashText_written indented
      refine ⟨_, .slashRun ?_ ?_ ?_ reading, Piece.texts_comment_congr sameText agree⟩
      · exact mt List.map_eq_nil_iff.mp (mt List.map_eq_nil_iff.mpr nonempty)
      · rw [List.forall_mem_map] at marked ⊢
        exact fun indented member => (isSlashLine_written_iff _ indented).mpr (marked _ member)
      · intro next isNext
        rw [List.head?_map] at isNext
        rcases Option.map_eq_some_iff.mp isNext with ⟨indented, isFirst, rfl⟩
        rw [isSlashLine_written_iff]
        apply maximal
        rw [← isRest, List.head?_map, isFirst]
        rfl
  | @closedBlock opened unindented pieces closed rest induction =>
      rcases List.map_eq_append_iff.mp same with ⟨above, more, rfl, rfl, isRest⟩
      have later := fun comment member => starred comment (List.mem_cons_of_mem _ member)
      rw [List.map_append] at whole ⊢
      rcases induction whole.of_append.2 later isRest with ⟨others, reading, agree⟩
      have sameText := Comment.text_written (.inr closed) whole.of_append.1
        (starred _ List.mem_cons_self)
      exact ⟨_, .closedBlock closed.written reading, Piece.texts_comment_congr sameText agree⟩
  | openBlock unclosed =>
      subst same
      have sameText := Comment.text_written (.inl unclosed) whole (starred _ List.mem_cons_self)
      exact ⟨_, .openBlock unclosed.written, Piece.texts_comment_congr sameText rfl⟩

/-! ## Blocks -/

theorem Block.map_comment_gather (opened : Option (Text × Text)) (pieces : List Piece) :
    (gather opened pieces).map Block.comment =
      (opened.map Prod.fst).toList ++ (Piece.texts pieces).filter declaresSection := by
  induction pieces generalizing opened with
  | nil => cases opened <;> rfl
  | cons piece rest induction =>
      cases piece with
      | code line =>
          rw [gather, induction, Option.map_map, Piece.texts]
          rfl
      | comment written =>
          rw [gather, Piece.texts, List.filter_cons]
          split
          · rw [List.map_append, induction]
            cases opened <;> rfl
          · rw [induction, Option.map_map]
            rfl

/-- The comments of the blocks are the comments that document a section. -/
theorem map_comment_blocksOf {contents dialect : Text} {pieces : List Piece}
    (reading : Reading (hasSlashComments dialect) contents.lineRuns pieces) :
    (blocksOf contents dialect).map Block.comment =
      (Piece.texts pieces).filter declaresSection := by
  rw [blocksOf, ← reading.eq_cut, Block.map_comment_gather]
  rfl

/-- White space for each line of a stylesheet, by its number. -/
structure Indentation where
  before : Nat → Text
  blank : ∀ number, (before number).isBlankLine = true
  noFeed : ∀ number, '\n' ∉ before number

namespace Indentation

variable (indentation : Indentation)

/-- The contents with the white space in front of the lines. -/
def apply (contents : Text) : Text :=
  (contents.lineRuns.mapIdx fun number line => indentation.before number ++ line).flatten

def lines (contents : Text) : List IndentedLine :=
  contents.lineRuns.mapIdx fun number line =>
    ⟨indentation.before number, line, indentation.blank number, indentation.noFeed number⟩

theorem map_line_lines (contents : Text) :
    (indentation.lines contents).map line = contents.lineRuns := by
  apply List.ext_getElem?
  intro number
  simp [lines, Function.comp_def]

theorem flatten_map_written_lines (contents : Text) :
    ((indentation.lines contents).map written).flatten = indentation.apply contents := by
  apply congrArg
  apply List.ext_getElem?
  intro number
  simp [lines, Function.comp_def, IndentedLine.written]

theorem lineRuns_apply (contents : Text) :
    (indentation.apply contents).lineRuns = (indentation.lines contents).map written := by
  have whole := wholeLines_lineRuns contents
  rw [← indentation.map_line_lines contents] at whole
  rw [← flatten_map_written_lines, lineRuns_flatten whole.written]

end Indentation

/-- Indentation does not reach the comments of a stylesheet with a star on each line of its block
comments below the opener's. The blocks are as many as before and have the same comments. -/
theorem comments_indented (indentation : Indentation) {contents dialect : Text}
    {pieces : List Piece} (reading : Reading (hasSlashComments dialect) contents.lineRuns pieces)
    (starred : ∀ comment, .comment comment ∈ pieces → comment.IsStarred) :
    (blocksOf (indentation.apply contents) dialect).map Block.comment =
      (blocksOf contents dialect).map Block.comment := by
  have whole := wholeLines_lineRuns contents
  have same := indentation.map_line_lines contents
  rw [map_comment_blocksOf reading]
  rw [← same] at reading whole
  rcases reading.written whole starred with ⟨others, readingWritten, agree⟩
  rw [← indentation.lineRuns_apply] at readingWritten
  rw [map_comment_blocksOf readingWritten, agree]

/-- A gutter with a blank line and a closer behind the text, and a run of `//` lines. -/
def gutterSheet : Text := "/** A\n\n *  Styleguide 1 */\n.a {}\n// B\n//  Styleguide 2".toList

def gutterPieces : List Piece :=
  [.comment ⟨.block, ["/** A\n".toList, "\n".toList, " *  Styleguide 1 */\n".toList]⟩,
    .code ".a {}\n".toList,
    .comment ⟨.slashes, ["// B\n".toList, "//  Styleguide 2".toList]⟩]

/-- Tabs before every other line and wide white space before the rest. -/
def unevenIndentation : Indentation where
  before number := if number % 2 = 0 then "\t\t".toList else "\u3000 ".toList
  blank number := by split <;> decide
  noFeed number := by split <;> decide

theorem gutterSheet_indented :
    Reading true gutterSheet.lineRuns gutterPieces ∧
      (blocksOf (unevenIndentation.apply gutterSheet) "scss".toList).map Block.comment =
        ["A\n\n Styleguide 1".toList, "B\n Styleguide 2".toList] := by
  have reading : Reading true gutterSheet.lineRuns gutterPieces :=
    reading_iff_eq_cut.mpr (by decide)
  have starred : ∀ comment, .comment comment ∈ gutterPieces → comment.IsStarred := by
    intro comment member
    simp only [gutterPieces, List.mem_cons, List.not_mem_nil, or_false, Piece.comment.injEq,
      reduceCtorEq, false_or] at member
    rcases member with rfl | rfl
    · decide
    · decide
  have dialect : hasSlashComments "scss".toList = true := by decide
  rw [← dialect] at reading
  exact ⟨reading, (comments_indented unevenIndentation reading starred).trans (by decide +kernel)⟩

end StyleCatalog
