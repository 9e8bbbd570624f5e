import StyleCatalog.Proofs.Stylesheet.LineEnds

/-! # Openers and closers

A block comment starts behind the white space of its first line and ends at the first closer behind
its opener. No closer lies across a line end, so only the last line of a comment can carry one.
-/

namespace StyleCatalog

/-! ## The first closer -/

namespace Text

theorem not_isInfix_of_cutAt? {marker t before after : Text} (nonempty : marker ≠ [])
    (found : cutAt? marker t = some (before, after)) : ¬marker <:+: before := by
  induction t generalizing before with
  | nil =>
      rw [cutAt?, if_neg (by simpa using nonempty)] at found
      cases found
  | cons c rest induction =>
      rw [cutAt?] at found
      cases here : dropPrefix? marker (c :: rest) with
      | some follows =>
          rw [here] at found
          cases found
          rw [List.infix_nil]
          exact nonempty
      | none =>
          rw [here] at found
          rcases Option.map_eq_some_iff.mp found with ⟨cut, later, parts⟩
          cases parts
          have whole : rest = cut.1 ++ (marker ++ cut.2) := eq_append_of_cutAt? later
          rw [List.infix_cons_iff, not_or]
          constructor
          · intro starts
            apply dropPrefix?_eq_none_iff.mp here
            rw [whole, ← List.cons_append]
            exact starts.trans (List.prefix_append _ _)
          · exact induction later

theorem exists_first_closer {t : Text} (closes : "*/".toList <:+: t) :
    ∃ body tail : Text, t = body ++ ("*/".toList ++ tail) ∧ ¬"*/".toList <:+: body := by
  have isSome := hasInfix_iff.mpr closes
  rcases Option.isSome_iff_exists.mp isSome with ⟨⟨body, tail⟩, found⟩
  exact ⟨body, tail, eq_append_of_cutAt? found, not_isInfix_of_cutAt? (by decide) found⟩

/-- White space holds neither mark of an opener. -/
theorem cutAt?_opener {gap : Text} (blank : gap.isBlankLine = true) (rest : Text) :
    cutAt? "/*".toList (gap ++ ("/*".toList ++ rest)) = some (gap, rest) := by
  induction gap with
  | nil => rfl
  | cons c more induction =>
      rw [isBlankLine, List.all_cons, Bool.and_eq_true] at blank
      have noSlash : '/' ≠ c := by
        intro same
        subst same
        exact absurd blank.1 (by decide)
      have notHere : ¬"/*".toList <+: c :: (more ++ ("/*".toList ++ rest)) := by
        intro starts
        exact noSlash (List.cons_prefix_cons.mp starts).1
      rw [List.cons_append, cutAt?, dropPrefix?_eq_none_iff.mpr notHere, induction blank.2]
      rfl

theorem closer_free_of_isBlankLine {gap : Text} (blank : gap.isBlankLine = true) :
    ¬"*/".toList <:+: gap := by
  intro found
  exact not_mem_of_isBlankLine (by decide) blank (found.subset (by decide : '*' ∈ "*/".toList))

end Text

open Text

namespace Comment

theorem afterOpener_gap {gap : Text} (blank : gap.isBlankLine = true) (rest : Text) :
    afterOpener (gap ++ ("/*".toList ++ rest)) = rest := by
  rw [afterOpener, cutAt?_opener blank]
  rfl

theorem beforeCloser_of_free {t : Text} (free : ¬"*/".toList <:+: t) : beforeCloser t = t := by
  have nowhere : cutAt? "*/".toList t = none := by
    rw [← Option.not_isSome_iff_eq_none]
    exact mt hasInfix_iff.mp free
  rw [beforeCloser, nowhere]
  rfl

theorem beforeCloser_closer {body : Text} (free : ¬"*/".toList <:+: body) (tail : Text) :
    beforeCloser (body ++ ("*/".toList ++ tail)) = body := by
  have found : cutAt? "*/".toList (body ++ ("*/".toList ++ tail)) = some (body, tail) :=
    cutAt?_closer free tail
  rw [beforeCloser, found]
  rfl

/-- What carries no closer, and ends in no star of one, stands before the first closer. -/
theorem beforeCloser_append {t : Text} (free : ¬"*/".toList <:+: t) (noStar : t.getLast? ≠ some '*')
    (u : Text) : beforeCloser (t ++ u) = t ++ beforeCloser u := by
  have joined {v : Text} (vFree : ¬"*/".toList <:+: v) : ¬"*/".toList <:+: t ++ v :=
    not_closer_isInfix_append_of_boundary free vFree fun star => absurd star noStar
  by_cases closes : "*/".toList <:+: u
  · rcases exists_first_closer closes with ⟨body, tail, rfl, bodyFree⟩
    rw [beforeCloser_closer bodyFree, ← List.append_assoc, beforeCloser_closer (joined bodyFree)]
  · rw [beforeCloser_of_free closes, beforeCloser_of_free (joined closes)]

theorem beforeCloser_gap {gap : Text} (blank : gap.isBlankLine = true) (t : Text) :
    beforeCloser (gap ++ t) = gap ++ beforeCloser t := by
  apply beforeCloser_append (closer_free_of_isBlankLine blank)
  intro star
  exact not_mem_of_isBlankLine (by decide) blank (List.mem_of_getLast? star)

end Comment

/-! ## Lines of a comment -/

theorem WholeLines.of_cons {line : Text} {rest : List Text} (whole : WholeLines (line :: rest)) :
    WholeLines rest := by
  cases whole with
  | last some free => exact .nil
  | cons free whole => exact whole

theorem WholeLines.of_append {lines rest : List Text} (whole : WholeLines (lines ++ rest)) :
    WholeLines lines ∧ WholeLines rest := by
  induction lines with
  | nil => exact ⟨.nil, whole⟩
  | cons line more induction =>
      rw [List.cons_append] at whole
      generalize joined : more ++ rest = others at whole
      cases whole with
      | last some free =>
          rcases List.append_eq_nil_iff.mp joined with ⟨rfl, rfl⟩
          exact ⟨.last some free, .nil⟩
      | cons free whole =>
          rw [← joined] at whole
          have both := induction whole
          exact ⟨.cons free both.1, both.2⟩

theorem WholeLines.isTerminated_of_mem_dropLast {lines : List Text} (whole : WholeLines lines) :
    ∀ line ∈ lines.dropLast, IsTerminated line := by
  induction whole with
  | nil => exact List.forall_mem_nil _
  | last some free => exact List.forall_mem_nil _
  | @cons body rest free whole induction =>
      cases rest with
      | nil => exact List.forall_mem_nil _
      | cons next others =>
          rw [List.dropLast_cons_cons]
          exact List.forall_mem_cons.mpr ⟨⟨body, free, rfl⟩, induction⟩

theorem IsTerminated.of_append {t u : Text} (terminated : IsTerminated (t ++ u))
    (notLast : t.getLast? ≠ some '\n') : IsTerminated u := by
  rcases terminated with ⟨body, free, same⟩
  rcases List.eq_nil_or_concat u with rfl | ⟨rest, last, rfl⟩
  · rw [List.append_nil] at same
    exact absurd (by simp [same]) notLast
  · rw [List.concat_eq_append] at same ⊢
    rw [← List.append_assoc] at same
    have parts := List.append_inj' same rfl
    rw [← parts.1, List.mem_append, not_or] at free
    exact ⟨rest, free.2, by rw [parts.2]⟩

/-- No closer lies across the lines of a text. -/
theorem closer_free_of_lines {lines : List Text} (terminated : ∀ line ∈ lines, IsTerminated line)
    (free : ∀ line ∈ lines, ¬"*/".toList <:+: line) {u : Text} (uFree : ¬"*/".toList <:+: u) :
    ¬"*/".toList <:+: lines.flatten ++ u := by
  induction lines with
  | nil => exact uFree
  | cons line rest induction =>
      rw [List.forall_mem_cons] at terminated free
      have later := induction terminated.2 free.2
      rw [List.flatten_cons, List.append_assoc]
      apply not_closer_isInfix_append_of_boundary free.1 later
      rcases terminated.1 with ⟨body, -, rfl⟩
      simp

/-! ## Block comments -/

/-- The lines of a block comment: white space and the opener, then lines of which none but the last
carries a closer. -/
structure IsBlock (gap inside : Text) (below : List Text) : Prop where
  blank : gap.isBlankLine = true
  unclosed : ∀ line ∈ (inside :: below).dropLast, ¬"*/".toList <:+: line

/-- The first line of a block comment. -/
def openerLine (gap inside : Text) : Text := gap ++ ("/*".toList ++ inside)

theorem WholeLines.isTerminated_behind_opener {gap inside : Text} {below : List Text}
    (whole : WholeLines (openerLine gap inside :: below)) :
    ∀ line ∈ (inside :: below).dropLast, IsTerminated line := by
  have terminated := whole.isTerminated_of_mem_dropLast
  cases below with
  | nil => exact List.forall_mem_nil _
  | cons next others =>
      rw [List.dropLast_cons_cons, List.forall_mem_cons] at terminated ⊢
      rw [openerLine, ← List.append_assoc] at terminated
      exact ⟨terminated.1.of_append (by simp), terminated.2⟩

theorem WholeLines.isLine_behind_opener {gap inside : Text} {below : List Text}
    (whole : WholeLines (openerLine gap inside :: below)) :
    ∀ line ∈ inside :: below, IsLine line := by
  have isLine := whole.isLine
  rw [List.forall_mem_cons] at isLine ⊢
  have ending : inside <:+ openerLine gap inside :=
    (List.suffix_append _ _).trans (List.suffix_append gap _)
  exact ⟨isLine.1.of_isSuffix ending, isLine.2⟩

theorem exists_gap_of_opens {line inside : Text} (opens : line.trimStart = "/*".toList ++ inside) :
    ∃ gap : Text, gap.isBlankLine = true ∧ line = openerLine gap inside := by
  refine ⟨line.takeWhile isBlank, isBlankLine_takeWhile line, ?_⟩
  rw [openerLine, ← opens, takeWhile_append_trimStart]

theorem IsOpenBlock.exists_opener {lines : List Text} (opened : IsOpenBlock lines) :
    ∃ (gap inside : Text) (below : List Text), gap.isBlankLine = true ∧
      lines = openerLine gap inside :: below ∧
      ∀ line ∈ inside :: below, ¬"*/".toList <:+: line := by
  induction opened with
  | opener opens unclosed =>
      rcases exists_gap_of_opens opens with ⟨gap, blank, rfl⟩
      exact ⟨gap, _, [], blank, rfl, List.forall_mem_singleton.mpr unclosed⟩
  | @later lines line opened unclosed induction =>
      rcases induction with ⟨gap, inside, below, blank, rfl, free⟩
      refine ⟨gap, inside, below ++ [line], blank, rfl, ?_⟩
      rw [← List.cons_append, List.forall_mem_append]
      exact ⟨free, List.forall_mem_singleton.mpr unclosed⟩

theorem IsClosedBlock.exists_opener {lines : List Text} (closed : IsClosedBlock lines) :
    ∃ (gap inside : Text) (below : List Text), IsBlock gap inside below ∧
      lines = openerLine gap inside :: below ∧
      ∃ last ∈ (inside :: below).getLast?, "*/".toList <:+: last := by
  cases closed with
  | onOneLine opens closes =>
      rcases exists_gap_of_opens opens with ⟨gap, blank, rfl⟩
      exact ⟨gap, _, [], ⟨blank, List.forall_mem_nil _⟩, rfl, _, rfl, closes⟩
  | @later lines line opened closes =>
      rcases opened.exists_opener with ⟨gap, inside, below, blank, rfl, free⟩
      refine ⟨gap, inside, below ++ [line], ⟨blank, ?_⟩, rfl, line, ?_, closes⟩
      · rwa [← List.cons_append, List.dropLast_concat]
      · rw [← List.cons_append, List.getLast?_concat]
        rfl

theorem exists_block {lines : List Text} (shape : IsOpenBlock lines ∨ IsClosedBlock lines) :
    ∃ (gap inside : Text) (below : List Text), IsBlock gap inside below ∧
      lines = openerLine gap inside :: below := by
  rcases shape with opened | closed
  · rcases opened.exists_opener with ⟨gap, inside, below, blank, same, free⟩
    have unclosed : ∀ line ∈ (inside :: below).dropLast, ¬"*/".toList <:+: line :=
      fun line member => free line (List.mem_of_mem_dropLast member)
    exact ⟨gap, inside, below, ⟨blank, unclosed⟩, same⟩
  · rcases closed.exists_opener with ⟨gap, inside, below, block, same, -⟩
    exact ⟨gap, inside, below, block, same⟩

end StyleCatalog
