import StyleCatalog.Proofs.Comment.Detection
import StyleCatalog.Proofs.Stylesheet.Gutters
import StyleCatalog.Proofs.Stylesheet.Writing

/-! # Code on the closing line of a comment

A comment takes whole lines. What stands behind the closer of a comment that documents a section is
no part of the comment's text and no part of the block's code either; the code of a block starts on
the next line: `blocksOf_loses_closing_lines`.
-/

namespace StyleCatalog

open Text

/-- A text without its white space. -/
def Text.solid (t : Text) : Text := t.filter fun c => !isBlank c

theorem Text.solid_append (t u : Text) : (t ++ u).solid = t.solid ++ u.solid :=
  List.filter_append t u

theorem Text.solid_eq_nil_iff {t : Text} : t.solid = [] ↔ t.isBlankLine = true := by
  rw [solid, List.filter_eq_nil_iff, isBlankLine_iff]
  simp

/-! ## Closing lines -/

/-- A block comment up to its first closer, and the rest of the closer's line. -/
structure ClosingLine (comment : Comment) where
  gap : Text
  inside : Text
  tail : Text
  isBlock : comment.style = .block
  blank : gap.isBlankLine = true
  unclosed : ¬"*/".toList <:+: inside
  isLine : IsLine tail
  source : comment.source = openerLine gap (inside ++ ("*/".toList ++ tail))

/-- The comment without what stands behind its closer. -/
def ClosingLine.upToCloser {comment : Comment} (closing : ClosingLine comment) : Comment :=
  ⟨.block, [openerLine closing.gap (closing.inside ++ "*/".toList)]⟩

/-- A closed comment has its first closer on its last line. -/
theorem IsClosedBlock.exists_closingLine {lines : List Text} (closed : IsClosedBlock lines)
    (whole : WholeLines lines) : Nonempty (ClosingLine ⟨.block, lines⟩) := by
  rcases closed.exists_opener with ⟨gap, inside, below, block, rfl, last, isLast, closes⟩
  rcases exists_first_closer closes with ⟨body, tail, rfl, bodyFree⟩
  have ending : tail <:+ body ++ ("*/".toList ++ tail) :=
    (List.suffix_append _ _).trans (List.suffix_append body _)
  have isLine := whole.isLine_behind_opener _ (List.mem_of_getLast? isLast)
  have flat : inside ++ below.flatten =
      (inside :: below).dropLast.flatten ++ (body ++ ("*/".toList ++ tail)) := by
    conv => lhs; rw [← List.flatten_cons, ← List.dropLast_append_getLast? _ isLast]
    rw [List.flatten_append, List.flatten_singleton]
  refine ⟨⟨gap, (inside :: below).dropLast.flatten ++ body, tail, rfl, block.blank, ?_,
    isLine.of_isSuffix ending, ?_⟩⟩
  · exact closer_free_of_lines whole.isTerminated_behind_opener block.unclosed bodyFree
  · rw [List.append_assoc, ← flat]
    simp only [Comment.source, List.flatten_cons, openerLine, List.append_assoc]

/-- Each block comment of a stylesheet is left open or closed. -/
theorem Reading.block_of_mem {slashes : Bool} {lines : List Text} {pieces : List Piece}
    (reading : Reading slashes lines pieces) (whole : WholeLines lines) {written : Comment}
    (member : .comment written ∈ pieces) (isBlock : written.style = .block) :
    IsOpenBlock written.lines ∨ Nonempty (ClosingLine written) := by
  induction reading with
  | done => cases member
  | code _ _ _ induction =>
      rcases List.mem_cons.mp member with impossible | later
      · cases impossible
      · exact induction whole.of_cons later
  | slashRun _ _ _ _ induction =>
      rcases List.mem_cons.mp member with here | later
      · cases here
        cases isBlock
      · exact induction whole.of_append.2 later
  | closedBlock closed _ induction =>
      rcases List.mem_cons.mp member with here | later
      · cases here
        exact .inr (closed.exists_closingLine whole.of_append.1)
      · exact induction whole.of_append.2 later
  | openBlock unclosed =>
      cases List.mem_singleton.mp member
      exact .inl unclosed

/-! ## What is left of a closing line -/

theorem IsLine.cons {c : Char} (noFeed : '\n' ≠ c) {line : Text} (isLine : IsLine line) :
    IsLine (c :: line) := by
  rcases isLine with ⟨body, free, rfl⟩ | free
  · exact .inl ⟨c :: body, List.not_mem_cons_of_ne_of_not_mem noFeed free, rfl⟩
  · exact .inr (List.not_mem_cons_of_ne_of_not_mem noFeed free)

theorem atMargin_singleton {line : Text} (trimmed : line.trim = line)
    (solid : line.isBlankLine = false) : AtMargin [line] := by
  have ends := trim_eq_self_iff.mp trimmed
  constructor
  · intro first isFirst
    cases isFirst
    exact solid
  · intro last isLast
    cases isLast
    exact solid
  · exact List.forall_mem_singleton.mpr ends.2
  · exact ⟨line, List.mem_singleton_self line, solid, ends.1⟩

theorem declaresSection_dedent_singleton {line : Text} (margin : AtMargin [line])
    (noFeed : '\n' ∉ line) :
    declaresSection (unlines (dedent [line])) = startsReference line := by
  have dedented := dedent_padded [] [] (by simp) (by simp) margin.isDedented
  rw [List.nil_append, List.append_nil] at dedented
  rw [dedented, unlines_singleton]
  change (splitAtChar '\n' line).any startsReference = startsReference line
  rw [splitAtChar_of_not_mem noFeed, List.any_cons, List.any_nil, Bool.or_false]

theorem startsReference_slash (rest : Text) : startsReference ('/' :: rest) = false := by
  rw [startsReference, trimStart_cons_of_not_blank rest (by decide)]
  rfl

theorem Comment.text_of_isBlock {comment : Comment} (isBlock : comment.style = .block) :
    comment.text = unlines (dedent (blockLines comment.source)) := by
  rw [text, isBlock]

namespace ClosingLine

variable {comment : Comment} (closing : ClosingLine comment)

theorem blockInside_source :
    Comment.blockInside comment.source = Comment.beforeCloser
      ((closing.inside ++ ("*/".toList ++ closing.tail)).dropWhile (· = '*')) := by
  have opener := Comment.blockInside_openerLine closing.blank closing.inside
    ("*/".toList ++ closing.tail)
  rw [← opener, closing.source]
  simp only [openerLine, List.append_assoc]

/-- A comment of nothing but stars keeps the slash of its closer, and its text is one line. -/
theorem silent_of_stars (stars : closing.inside.dropWhile (· = '*') = []) :
    declaresSection comment.text = false := by
  have inside : Comment.blockInside comment.source = '/' :: Comment.beforeCloser closing.tail := by
    rw [closing.blockInside_source, List.dropWhile_append, stars]
    exact Comment.beforeCloser_append (t := ['/']) (by decide) (by decide) closing.tail
  have isLine : IsLine (Comment.blockInside comment.source) := by
    rw [inside]
    exact (closing.isLine.of_isPrefix (Comment.beforeCloser_isPrefix _)).cons (by decide)
  have noFeed : '\n' ∉ (Comment.blockInside comment.source).trim :=
    (isLine.of_isSuffix (trimStart_isSuffix _)).newline_not_mem_trimEnd
  have alone := Comment.blockLines_of_isLine isLine
  have trimmed := trim_trim (Comment.blockInside comment.source)
  rcases exists_trim_cons (c := '/') (by decide) (Comment.beforeCloser closing.tail) with
    ⟨more, starts⟩
  rw [inside, starts] at alone noFeed trimmed
  rw [Comment.text_of_isBlock closing.isBlock, alone,
    declaresSection_dedent_singleton (atMargin_singleton trimmed rfl) noFeed, startsReference_slash]

theorem blockInside_of_solid (noStars : closing.inside.dropWhile (· = '*') ≠ []) :
    Comment.blockInside comment.source = closing.inside.dropWhile (· = '*') := by
  have left : closing.inside.dropWhile (· = '*') <:+ closing.inside := List.dropWhile_suffix _
  have leftFree : ¬"*/".toList <:+: closing.inside.dropWhile (· = '*') :=
    fun closes => closing.unclosed (closes.trans left.isInfix)
  rw [closing.blockInside_source, List.dropWhile_append, if_neg (mt List.isEmpty_iff.mp noStars),
    Comment.beforeCloser_closer leftFree]

/-- The end of the comment without what stands behind its closer. -/
def bare : ClosingLine closing.upToCloser where
  gap := closing.gap
  inside := closing.inside
  tail := []
  isBlock := rfl
  blank := closing.blank
  unclosed := closing.unclosed
  isLine := .inr List.not_mem_nil
  source := List.flatten_singleton

/-- What stands behind the closer is no part of the text of a comment that documents a section. -/
theorem text_upToCloser (documents : declaresSection comment.text = true) :
    closing.upToCloser.text = comment.text := by
  have noStars : closing.inside.dropWhile (· = '*') ≠ [] := by
    intro stars
    rw [closing.silent_of_stars stars] at documents
    cases documents
  have same : Comment.blockInside closing.upToCloser.source = Comment.blockInside comment.source :=
    (closing.bare.blockInside_of_solid noStars).trans (closing.blockInside_of_solid noStars).symm
  rw [Comment.text_of_isBlock closing.isBlock, Comment.text_of_isBlock closing.bare.isBlock,
    Comment.blockLines, same, Comment.blockLines]

end ClosingLine

theorem Part.solid_code (part : Part) : (part.block.code.getD []).solid = part.code.solid := by
  rw [block]
  split
  · rename_i blank
    rw [solid_eq_nil_iff.mpr blank]
    rfl
  · rfl

theorem Part.solid_append_code_iff (part : Part) (tail : Text) :
    (tail ++ part.code).solid = (part.block.code.getD []).solid ↔ tail.isBlankLine = true := by
  rw [part.solid_code, solid_append, List.append_left_eq_self, solid_eq_nil_iff]

/-- What a block comment leaves behind its closer is lost. The text of the block is that of the
comment up to the closer and the code starts on the next line, so the source from the closer up to
the next part comes back, white space aside, exactly if the rest of the closing line is blank. -/
theorem blocksOf_loses_closing_lines (contents dialect : Text) :
    ∃ (before : List Piece) (parts : List Part),
      Reading (hasSlashComments dialect) contents.lineRuns (before ++ parts.flatMap Part.pieces) ∧
      Undocumented before ∧
      contents =
        Piece.sourceOf before ++ parts.flatMap (fun part => part.comment.source ++ part.code) ∧
      blocksOf contents dialect = parts.map Part.block ∧
      ∀ part ∈ parts, part.comment.style = .block →
        IsOpenBlock part.comment.lines ∨
        ∃ closing : ClosingLine part.comment,
          part.block.comment = closing.upToCloser.text ∧
          ((closing.tail ++ part.code).solid = (part.block.code.getD []).solid ↔
            closing.tail.isBlankLine = true) := by
  rcases exists_parts_of_contents contents dialect with
    ⟨before, parts, reading, plain, concat, blocks⟩
  refine ⟨before, parts, reading, plain, concat, blocks, ?_⟩
  intro part inParts isBlock
  have inPieces : .comment part.comment ∈ before ++ parts.flatMap Part.pieces :=
    List.mem_append_right _ (List.mem_flatMap.mpr ⟨part, inParts, List.mem_cons_self⟩)
  rcases reading.block_of_mem (wholeLines_lineRuns contents) inPieces isBlock with
    unclosed | ⟨⟨closing⟩⟩
  · exact .inl unclosed
  · exact .inr ⟨closing, (closing.text_upToCloser part.documents).symm,
      part.solid_append_code_iff closing.tail⟩

/-- A comment with a rule behind its closer. -/
def closingRule : Comment :=
  ⟨.block, ["/* A\n".toList, "\n".toList, "Styleguide 1 */ .a {}\n".toList]⟩

def closingRuleLine : ClosingLine closingRule where
  gap := []
  inside := " A\n\nStyleguide 1 ".toList
  tail := " .a {}\n".toList
  isBlock := rfl
  blank := rfl
  unclosed := by decide
  isLine := .inl ⟨" .a {}".toList, by decide, rfl⟩
  source := rfl

theorem closingRule_is_lost :
    Reading (hasSlashComments "css".toList) closingRule.source.lineRuns [.comment closingRule] ∧
      closingRuleLine.tail = " .a {}\n".toList ∧
      blocksOf closingRule.source "css".toList = [⟨"A\n\nStyleguide 1".toList, none⟩] :=
  ⟨reading_iff_eq_cut.mpr (by decide), rfl, by decide +kernel⟩

end StyleCatalog
