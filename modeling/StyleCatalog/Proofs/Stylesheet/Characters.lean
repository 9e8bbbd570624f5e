import StyleCatalog.Proofs.Comment.Parameters
import StyleCatalog.Proofs.Comment.References
import StyleCatalog.Proofs.Stylesheet.Dedent
import StyleCatalog.Proofs.Stylesheet.LineEnds
import StyleCatalog.Proofs.Text.JoinedLines

/-! # Characters of comments and parameters

Taking off the marks of a comment, moving its lines to the left and cutting out a parameter drop
characters and join lines, but bring in no character other than the line feed.
-/

namespace StyleCatalog

open Text

/-! ## Comments -/

namespace Comment

theorem slashText_isInfix (line : Text) : slashText line <:+: line :=
  (trimEnd_isPrefix _).isInfix.trans (slashBody_isSuffix line).isInfix

theorem withoutGutter_isInfix (line : Text) : withoutGutter line <:+: line := by
  rw [withoutGutter]
  split
  · rename_i rest shape
    have below : rest <:+ line :=
      (List.suffix_cons '*' rest).trans (shape ▸ trimStart_isSuffix line)
    exact (trimEnd_isPrefix _).isInfix.trans ((afterOptional_isSuffix ' ' rest).trans below).isInfix
  · exact (trimEnd_isPrefix line).isInfix

theorem isInfix_of_mem_blockLines {raw line : Text} (member : line ∈ blockLines raw) :
    line <:+: raw := by
  have within {written : Text} (inLines : written ∈ (blockInside raw).lines) : written <:+: raw :=
    (isInfix_of_mem_lines inLines).trans (blockInside_isInfix raw)
  rw [blockLines] at member
  split at member
  · rw [List.mem_singleton.mp member]
    exact List.nil_infix
  · rename_i first rest cut
    rw [cut] at within
    rcases List.mem_cons.mp member with rfl | later
    · have trimmed := trim_infix first
      exact trimmed.trans (within List.mem_cons_self)
    · split at later
      · rcases List.mem_map.mp later with ⟨written, inRest, rfl⟩
        exact (withoutGutter_isInfix written).trans (within (List.mem_cons_of_mem first inRest))
      · rcases List.mem_map.mp later with ⟨written, inRest, rfl⟩
        exact (trimEnd_isPrefix written).isInfix.trans (within (List.mem_cons_of_mem first inRest))

theorem mem_source_of_mem_text {comment : Comment} {c : Char} (noFeed : c ≠ '\n')
    (member : c ∈ comment.text) : c ∈ comment.source := by
  rcases mem_of_mem_unlines noFeed member with ⟨line, inText, inLine⟩
  rcases exists_line_of_mem_dedent inText with ⟨written, inStripped, isSuffix⟩
  have inWritten := isSuffix.subset inLine
  split at inStripped
  · rcases List.mem_map.mp inStripped with ⟨marked, inLines, rfl⟩
    exact List.mem_flatten.mpr ⟨marked, inLines, (slashText_isInfix marked).subset inWritten⟩
  · exact (isInfix_of_mem_blockLines inStripped).subset inWritten

end Comment

/-! ## Blocks -/

theorem Part.eq_code_of_mem_block (part : Part) {source : Text}
    (isCode : source ∈ part.block.code) : source = part.code := by
  rw [Option.mem_def, block, Option.ite_none_left_eq_some] at isCode
  exact (Option.some.inj isCode.2).symm

theorem exists_part_of_mem_blocksOf {contents dialect : Text} {block : Block}
    (member : block ∈ blocksOf contents dialect) :
    ∃ part : Part, block = part.block ∧ part.comment.source ++ part.code <:+: contents := by
  rcases exists_parts_of_contents contents dialect with ⟨before, parts, -, -, whole, blocks⟩
  rw [blocks] at member
  rcases List.mem_map.mp member with ⟨part, inParts, rfl⟩
  have within : part.comment.source ++ part.code <:+:
      parts.flatMap fun other => other.comment.source ++ other.code :=
    List.infix_of_mem_flatten (List.mem_map.mpr ⟨part, inParts, rfl⟩)
  exact ⟨part, rfl, within.trans (List.IsSuffix.isInfix ⟨_, whole.symm⟩)⟩

/-! ## Parameters -/

namespace ParameterRun

theorem isSuffix_of_opening? {marker line name value : Text}
    (opens : opening? marker line = some (name, value)) : value <:+ line := by
  rw [opening?_eq_bind] at opens
  rcases Option.bind_eq_some_iff.mp opens with ⟨rest, marked, named⟩
  rcases Option.bind_eq_some_iff.mp named with ⟨cut, found, same⟩
  split at same
  · cases same
    have whole := eq_append_of_cutAt? found
    rw [← List.append_assoc] at whole
    have inRest : value <:+ rest := ⟨_, whole.symm⟩
    have inBody : rest <:+ line.trimStart := ⟨_, (dropPrefix?_eq_some_iff.mp marked).symm⟩
    exact (inRest.trans inBody).trans (trimStart_isSuffix line)
  · cases same

/-- What holds of the ends of lines, and of the texts of the open parameter, holds of the texts of
every parameter that is cut out. -/
theorem forall_mem_of_parameter_mem_cut {P : Text → Prop} {marker name value : Text}
    {below lines : List Text} {opened : Option (Text × Text × List Text)}
    (held : ∀ run ∈ opened, ∀ t ∈ run.2.1 :: run.2.2, P t)
    (fromLines : ∀ line ∈ lines, ∀ ending, ending <:+ line → P ending)
    (member : .parameter name value below ∈ cut marker opened lines) :
    ∀ t ∈ value :: below, P t := by
  induction lines generalizing opened with
  | nil =>
      rcases opened with _ | run
      · cases member
      · cases List.mem_singleton.mp member
        exact held run rfl
  | cons line rest induction =>
      rw [List.forall_mem_cons] at fromLines
      cases opens : opening? marker line with
      | some found =>
          rw [cut_opening _ _ opens, List.mem_append] at member
          rcases member with closed | later
          · rcases opened with _ | run
            · cases closed
            · cases List.mem_singleton.mp closed
              exact held run rfl
          · refine induction ?_ fromLines.2 later
            rintro run ⟨⟩
            exact List.forall_mem_singleton.mpr (fromLines.1 _ (isSuffix_of_opening? opens))
      | none =>
          rcases opened with _ | ⟨heldName, heldValue, heldBelow⟩
          · rw [cut_kept _ opens, List.mem_cons] at member
            rcases member with impossible | later
            · cases impossible
            · exact induction held fromLines.2 later
          · cases blank : line.isBlankLine with
            | true =>
                rw [cut_closing _ opens blank, List.mem_cons, List.mem_cons] at member
                rcases member with here | impossible | later
                · cases here
                  exact held _ rfl
                · cases impossible
                · exact induction (by simp) fromLines.2 later
            | false =>
                rw [cut_below _ opens blank] at member
                refine induction ?_ fromLines.2 member
                rintro run ⟨⟩ t inTexts
                rw [← List.cons_append, List.mem_append, List.mem_singleton] at inTexts
                rcases inTexts with before | rfl
                · exact held _ rfl t before
                · exact fromLines.1 _ List.suffix_rfl

end ParameterRun

theorem mem_of_mem_value {marker t : Text} {parameter : Parameter}
    (isParameter : parameter ∈ parameters marker t) {c : Char} (noFeed : c ≠ '\n')
    (member : c ∈ parameter.value) : c ∈ t := by
  rcases List.mem_filterMap.mp isParameter with ⟨run, inRuns, found⟩
  cases run with
  | kept line => cases found
  | parameter name value below =>
      cases found
      have trimmed := trim_infix (unlines (value :: below))
      rcases mem_of_mem_unlines noFeed (trimmed.subset member) with ⟨text, isText, inText⟩
      have fromLines : ∀ line ∈ t.lines, ∀ ending, ending <:+ line → ending ⊆ t :=
        fun line inLines ending isSuffix =>
          List.Subset.trans isSuffix.subset (isInfix_of_mem_lines inLines).subset
      exact ParameterRun.forall_mem_of_parameter_mem_cut (by simp) fromLines inRuns text isText
        inText

end StyleCatalog
