import StyleCatalog.Proofs.Stylesheet.Dedent
import StyleCatalog.Proofs.Text.Lines
import StyleCatalog.Proofs.Text.Markers
import StyleCatalog.Stylesheet.Comment

/-! # Writing comments

A text can be written as a comment in two styles: behind `//` on every line, or behind a gutter of
stars. Taking the marks off again gives the text back, `Comment.text_write`, provided that the text
has no outer blank lines, no trailing white space and a line at the left margin.
-/

namespace StyleCatalog

/-- Items come back from a list when each comes back from what is made of it. -/
theorem map_map_eq_self {α β : Type} {make : α → β} {back : β → α} {items : List α}
    (inverse : ∀ item ∈ items, back (make item) = item) : (items.map make).map back = items := by
  rw [List.map_map]
  exact (List.map_congr_left inverse).trans (List.map_id items)

/-! ## Lines at the margin -/

/-- Lines that stay as they are when they are moved to the left and trimmed. -/
structure AtMargin (lines : List Text) : Prop where
  firstSolid : ∀ line ∈ lines.head?, line.isBlankLine = false
  lastSolid : ∀ line ∈ lines.getLast?, line.isBlankLine = false
  trimmed : ∀ line ∈ lines, line.trimEnd = line
  unindented : ∃ line ∈ lines, line.isBlankLine = false ∧ line.trimStart = line

theorem AtMargin.isDedented {lines : List Text} (margin : AtMargin lines) : IsDedented lines where
  firstSolid := margin.firstSolid
  lastSolid := margin.lastSolid
  emptied line member := Text.eq_nil_of_isBlankLine (margin.trimmed line member)
  unindented := margin.unindented

/-! ## The two styles -/

namespace Comment

def slashLine (line : Text) : Text := "// ".toList ++ line ++ ['\n']

def gutterLine (line : Text) : Text := " * ".toList ++ line ++ ['\n']

/-- The lines that write a text as a comment. -/
def writeLines : CommentStyle → Text → List Text
  | .slashes, t => (t.splitAtChar '\n').map slashLine
  | .block, t => "/**\n".toList :: ((t.splitAtChar '\n').map gutterLine ++ [" */\n".toList])

/-- A text written as a comment. -/
def write (style : CommentStyle) (t : Text) : Comment := ⟨style, writeLines style t⟩

theorem slashText_slashLine {line : Text} (trimmed : line.trimEnd = line) :
    slashText (slashLine line) = line := by
  have feed : Text.isBlankLine ['\n'] = true := by decide
  calc
    slashText (slashLine line) = (line ++ ['\n']).trimEnd := rfl
    _ = line.trimEnd := Text.trimEnd_append_of_isBlankLine line feed
    _ = line := trimmed

theorem withoutGutter_star {line : Text} (trimmed : line.trimEnd = line) :
    withoutGutter (" * ".toList ++ line) = line := by
  calc
    withoutGutter (" * ".toList ++ line) = line.trimEnd := rfl
    _ = line := trimmed

/-! ## The inside of a gutter comment -/

theorem not_closer_isInfix_gutterLine {line : Text} (free : ¬"*/".toList <:+: line) :
    ¬"*/".toList <:+: gutterLine line := by
  have star : ¬"*/".toList <:+: " *".toList := by decide
  have feed : ¬"*/".toList <:+: ['\n'] := by decide
  have body : ¬"*/".toList <:+: ' ' :: (line ++ ['\n']) :=
    Text.not_closer_isInfix_cons (by decide) (Text.not_closer_isInfix_append free feed (by decide))
  have shape : gutterLine line = " *".toList ++ ' ' :: (line ++ ['\n']) := rfl
  rw [shape]
  exact Text.not_closer_isInfix_append star body (by simp)

theorem not_closer_isInfix_gutter {lines : List Text}
    (free : ∀ line ∈ lines, ¬"*/".toList <:+: line) :
    ¬"*/".toList <:+: (lines.map gutterLine).flatten ++ [' '] := by
  induction lines with
  | nil => decide
  | cons line rest induction =>
      have first := not_closer_isInfix_gutterLine (free line List.mem_cons_self)
      have later := induction fun other member => free other (List.mem_cons_of_mem line member)
      rw [List.map_cons, List.flatten_cons, List.append_assoc]
      apply Text.not_closer_isInfix_append first later
      cases rest <;> simp [gutterLine]

theorem blockInside_opener (rest : Text) :
    blockInside ("/**\n".toList ++ rest) =
      ((Text.cutAt? "*/".toList ('\n' :: rest)).map Prod.fst).getD ('\n' :: rest) := rfl

theorem blockInside_gutter {lines : List Text} (free : ∀ line ∈ lines, ¬"*/".toList <:+: line) :
    blockInside ("/**\n".toList ++ ((lines.map gutterLine).flatten ++ " */\n".toList)) =
      '\n' :: ((lines.map gutterLine).flatten ++ [' ']) := by
  have noCloser : ¬"*/".toList <:+: '\n' :: ((lines.map gutterLine).flatten ++ [' ']) :=
    Text.not_closer_isInfix_cons (by decide) (not_closer_isInfix_gutter free)
  have shape : '\n' :: ((lines.map gutterLine).flatten ++ " */\n".toList) =
      ('\n' :: ((lines.map gutterLine).flatten ++ [' '])) ++ '*' :: '/' :: ['\n'] := by simp
  rw [blockInside_opener, shape, Text.cutAt?_closer noCloser]
  rfl

theorem isTerminated_gutterLine {line : Text} (free : '\n' ∉ line) :
    IsTerminated (gutterLine line) :=
  ⟨" * ".toList ++ line, by simp [free], rfl⟩

theorem lines_gutter {lines : List Text} (free : ∀ line ∈ lines, '\n' ∉ line)
    (trimmed : ∀ line ∈ lines, line.trimEnd = line) :
    Text.lines ('\n' :: ((lines.map gutterLine).flatten ++ [' '])) =
      [] :: (lines.map (" * ".toList ++ ·) ++ [[' ']]) := by
  have whole : WholeLines (['\n'] :: (lines.map gutterLine ++ [[' ']])) := by
    refine @WholeLines.cons [] _ List.not_mem_nil ?_
    apply WholeLines.append
    · intro written member
      rcases List.mem_map.mp member with ⟨line, lineMember, rfl⟩
      exact isTerminated_gutterLine (free line lineMember)
    · exact .last (by simp) (by decide)
  have concat : (['\n'] :: (lines.map gutterLine ++ [[' ']])).flatten =
      '\n' :: ((lines.map gutterLine).flatten ++ [' ']) := by simp
  have bodies : (lines.map gutterLine).map Text.lineBody = lines.map (" * ".toList ++ ·) := by
    rw [List.map_map]
    apply List.map_congr_left
    intro line member
    apply Text.lineBody_append_newline
    cases line with
    | nil => decide
    | cons c rest =>
        rw [List.getLast?_append_of_ne_nil _ (by simp)]
        exact Text.getLast?_ne_return (trimmed _ member)
  rw [Text.lines, ← concat, Text.lineRuns_flatten whole, List.map_cons, List.map_append, bodies]
  rfl

theorem hasGutter_stars (lines : List Text) :
    hasGutter (lines.map (" * ".toList ++ ·) ++ [[' ']]) = true := by
  rw [hasGutter, List.all_eq_true]
  intro written member
  rw [List.mem_filter, List.mem_append] at member
  rcases member with ⟨starred | last, solid⟩
  · rcases List.mem_map.mp starred with ⟨line, -, rfl⟩
    rfl
  · rw [List.mem_singleton.mp last] at solid
    exact absurd solid (by decide)

/-! ## Marks off again -/

theorem text_write_slashes {t : Text} (margin : AtMargin (t.splitAtChar '\n')) :
    (write .slashes t).text = t := by
  have stripped : ((t.splitAtChar '\n').map slashLine).map slashText = t.splitAtChar '\n' :=
    map_map_eq_self fun line member => slashText_slashLine (margin.trimmed line member)
  have dedented := dedent_padded [] [] (by simp) (by simp) margin.isDedented
  rw [List.nil_append, List.append_nil] at dedented
  change Text.unlines (dedent (((t.splitAtChar '\n').map slashLine).map slashText)) = t
  rw [stripped, dedented]
  exact Text.intercalate_splitAtChar '\n' t

theorem blockLines_write {t : Text} (trimmed : ∀ line ∈ t.splitAtChar '\n', line.trimEnd = line)
    (unclosed : ¬"*/".toList <:+: t) :
    blockLines (write .block t).source = [] :: (t.splitAtChar '\n' ++ [[]]) := by
  have free : ∀ line ∈ t.splitAtChar '\n', ¬"*/".toList <:+: line := by
    intro line member inLine
    exact unclosed (inLine.trans (Text.isInfix_of_mem_splitAtChar member))
  have source : (write .block t).source = "/**\n".toList ++
      (((t.splitAtChar '\n').map gutterLine).flatten ++ " */\n".toList) := by
    simp [Comment.source, write, writeLines]
  have inside := lines_gutter (fun line => Text.not_mem_of_mem_splitAtChar) trimmed
  have stripped : ((t.splitAtChar '\n').map (" * ".toList ++ ·)).map withoutGutter =
      t.splitAtChar '\n' :=
    map_map_eq_self fun line member => withoutGutter_star (trimmed line member)
  rw [blockLines, source, blockInside_gutter free, inside]
  simp only [hasGutter_stars, if_true, List.map_append, stripped]
  rfl

theorem text_write_block {t : Text} (margin : AtMargin (t.splitAtChar '\n'))
    (unclosed : ¬"*/".toList <:+: t) : (write .block t).text = t := by
  have dedented := dedent_padded [[]] [[]] (by simp [Text.isBlankLine])
    (by simp [Text.isBlankLine]) margin.isDedented
  change Text.unlines (dedent (blockLines (write .block t).source)) = t
  rw [blockLines_write margin.trimmed unclosed]
  rw [List.singleton_append] at dedented
  rw [dedented]
  exact Text.intercalate_splitAtChar '\n' t

/-- A text at the margin comes back from either style, if nothing in it ends the comment early. -/
theorem text_write {style : CommentStyle} {t : Text} (margin : AtMargin (t.splitAtChar '\n'))
    (unclosed : style = .block → ¬"*/".toList <:+: t) : (write style t).text = t := by
  cases style with
  | slashes => exact text_write_slashes margin
  | block => exact text_write_block margin (unclosed rfl)

end Comment

end StyleCatalog
