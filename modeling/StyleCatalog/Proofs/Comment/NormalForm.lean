import StyleCatalog.Proofs.Comment.Runs
import StyleCatalog.Proofs.Text.JoinedLines

/-! # Clean comments

Cleaning a comment brings it into a normal form in one pass, `cleanComment_normalizes`: none of its
steps brings back what an earlier one took out, and a comment in that form is left alone.
-/

namespace StyleCatalog

open Text ParameterRun

/-- A comment that is trimmed as a whole and line by line, with line feeds and spaces for line ends
and tabs, and without parameters. -/
structure IsClean (marker t : Text) : Prop where
  noReturn : '\r' ∉ t
  noTab : '\t' ∉ t
  flush : ∀ line ∈ t.lines, line.trimEnd = line
  plain : ∀ line ∈ t.lines, opening? marker line = none
  trimmed : t.trim = t

namespace IsClean

variable {marker t : Text}

theorem unlines_lines (clean : IsClean marker t) : unlines t.lines = t := by
  apply Text.unlines_lines clean.noReturn
  intro feed
  have finish := trimEnd_eq_self_iff.mp (trim_eq_self_iff.mp clean.trimmed).2
  exact absurd (finish '\n' feed) (by decide)

theorem withoutParameters_eq (clean : IsClean marker t) : withoutParameters marker t = t := by
  rw [withoutParameters, ofText, cut_of_plain clean.plain, List.filterMap_map]
  change unlines (t.lines.filterMap some) = t
  rw [List.filterMap_some, clean.unlines_lines]

/-- A clean comment is left alone. -/
theorem cleanComment_eq (clean : IsClean marker t) : cleanComment marker t = t := by
  have kept : t.lines.map trimEnd = t.lines :=
    (List.map_congr_left clean.flush).trans (List.map_id t.lines)
  rw [cleanComment, normalizeBlanks_of_not_mem clean.noReturn clean.noTab,
    clean.withoutParameters_eq, kept, clean.unlines_lines, clean.trimmed]

end IsClean

/-! ## Cleaning -/

theorem mem_of_mem_withoutParameters {marker t : Text} {c : Char} (noFeed : c ≠ '\n')
    (member : c ∈ withoutParameters marker t) : c ∈ t := by
  rcases mem_of_mem_unlines noFeed member with ⟨line, isKept, inLine⟩
  have inText := (of_kept_mem_cut (mem_kept_iff.mp isKept)).1
  exact (isInfix_of_mem_lines inText).subset inLine

variable (marker comment : Text)

/-- A clean comment is a join of lines, each without white space at its end. -/
theorem exists_lines_cleanComment :
    ∃ kept, cleanComment marker comment = unlines kept ∧
      ∀ line ∈ kept, line.trimEnd = line ∧ IsInline line ∧ '\t' ∉ line := by
  let left := withoutParameters marker (normalizeBlanks comment)
  have flush : ∀ line ∈ left.lines.map trimEnd, line.trimEnd = line := by
    rw [List.forall_mem_map]
    exact fun line _ => trimEnd_trimEnd line
  rcases exists_trim_unlines flush with ⟨kept, fromLeft, trimmed⟩
  refine ⟨kept, trimmed, ?_⟩
  intro line member
  rcases fromLeft line member with ⟨whole, inLeft, isSuffix⟩
  have wholeFlush := flush whole inLeft
  rcases List.mem_map.mp inLeft with ⟨source, inLines, rfl⟩
  have within : line ⊆ source :=
    List.Subset.trans isSuffix.subset (trimEnd_isPrefix source).subset
  -- Characters other than the line feed are those of the normalized comment.
  have inComment {c : Char} (noFeed : c ≠ '\n') (inLine : c ∈ line) :
      c ∈ normalizeBlanks comment :=
    mem_of_mem_withoutParameters noFeed ((isInfix_of_mem_lines inLines).subset (within inLine))
  refine ⟨trimEnd_eq_self_of_isSuffix isSuffix wholeFlush, ⟨?_, ?_⟩, ?_⟩
  · exact fun inLine => return_not_mem_normalizeBlanks comment (inComment (by decide) inLine)
  · exact fun inLine => newline_not_mem_lines left source inLines (within inLine)
  · exact fun inLine => tab_not_mem_normalizeBlanks comment (inComment (by decide) inLine)

theorem isClean_cleanComment : IsClean marker (cleanComment marker comment) := by
  rcases exists_lines_cleanComment marker comment with ⟨kept, joined, tidy⟩
  have absent {c : Char} (noFeed : c ≠ '\n') (nowhere : ∀ line ∈ kept, c ∉ line) :
      c ∉ cleanComment marker comment := by
    rw [joined]
    intro member
    rcases mem_of_mem_unlines noFeed member with ⟨line, isKept, inLine⟩
    exact nowhere line isKept inLine
  refine ⟨?_, ?_, ?_, ?_, ?_⟩
  · exact absent (by decide) fun line isKept => (tidy line isKept).2.1.1
  · exact absent (by decide) fun line isKept => (tidy line isKept).2.2
  · rw [joined]
    intro line member
    exact (tidy line (lines_unlines_subset (fun other isKept => (tidy other isKept).2.1) member)).1
  · exact (opensNothing_cleanComment marker comment).of_mem_lines
  · exact trim_trim _

/-- Cleaning reaches the normal form in one pass and leaves exactly the texts in that form alone; in
particular, a second pass changes nothing. -/
theorem cleanComment_normalizes :
    IsClean marker (cleanComment marker comment) ∧
      cleanComment marker (cleanComment marker comment) = cleanComment marker comment ∧
      (cleanComment marker comment = comment ↔ IsClean marker comment) := by
  have clean := isClean_cleanComment marker comment
  refine ⟨clean, clean.cleanComment_eq, ?_, IsClean.cleanComment_eq⟩
  intro same
  exact same ▸ clean

/-- A marker that ends in a space. An expanded tab gives it more spaces than one, and no name starts
with a space; at the end of a line it loses its space. -/
example :
    cleanComment "sg ".toList "\tA\t\r\rsg\u00A0x: 1\r\n\nsg\ty: 2\nsg \n\t".toList =
      "A\n\nsg\u00A0x: 1\n\nsg    y: 2\nsg".toList := by decide

end StyleCatalog
