import StyleCatalog.Proofs.Stylesheet.Reading
import StyleCatalog.Proofs.Text.Lines

/-! # Parts of a stylesheet

A comment that documents a section starts a part, which goes on up to the next such comment. What
stands before the first one belongs to no part. The blocks of a stylesheet are its parts, in order,
and together with what stands before them the parts are the whole stylesheet.
-/

namespace StyleCatalog

/-- Pieces none of which is a comment that documents a section. -/
def Undocumented (pieces : List Piece) : Prop :=
  ∀ comment, Piece.comment comment ∈ pieces → declaresSection comment.text = false

/-- A comment that documents a section, with the pieces up to the next one. -/
structure Part where
  comment : Comment
  below : List Piece
  documents : declaresSection comment.text = true
  undocumented : Undocumented below

namespace Part

def pieces (part : Part) : List Piece := .comment part.comment :: part.below

/-- The code of a part, as it stands in the file. -/
def code (part : Part) : Text := Piece.sourceOf part.below

def block (part : Part) : Block where
  comment := part.comment.text
  code := if part.code.isBlankLine then none else some part.code

end Part

/-! ## Dividing pieces into parts -/

theorem undocumented_nil : Undocumented [] := by
  intro comment member
  cases member

theorem Undocumented.cons_code {pieces : List Piece} (plain : Undocumented pieces) (line : Text) :
    Undocumented (.code line :: pieces) := by
  intro comment member
  rcases List.mem_cons.mp member with impossible | later
  · cases impossible
  · exact plain comment later

theorem Undocumented.cons_comment {pieces : List Piece} (plain : Undocumented pieces)
    {comment : Comment} (silent : declaresSection comment.text = false) :
    Undocumented (.comment comment :: pieces) := by
  intro other member
  rcases List.mem_cons.mp member with same | later
  · cases same
    exact silent
  · exact plain other later

theorem exists_parts (pieces : List Piece) :
    ∃ (before : List Piece) (parts : List Part),
      Undocumented before ∧ pieces = before ++ parts.flatMap Part.pieces := by
  induction pieces with
  | nil => exact ⟨[], [], undocumented_nil, rfl⟩
  | cons piece rest induction =>
      rcases induction with ⟨before, parts, plain, rfl⟩
      cases piece with
      | code line => exact ⟨.code line :: before, parts, plain.cons_code line, rfl⟩
      | comment written =>
          cases documents : declaresSection written.text with
          | false => exact ⟨.comment written :: before, parts, plain.cons_comment documents, rfl⟩
          | true => exact ⟨[], ⟨written, before, documents, plain⟩ :: parts, undocumented_nil, rfl⟩

/-! ## Gathering blocks -/

namespace Block

/-- Pieces that document nothing are code of the open block. -/
theorem gather_append {before : List Piece} (plain : Undocumented before)
    (opened : Option (Text × Text)) (rest : List Piece) :
    gather opened (before ++ rest) =
      gather (opened.map fun block => (block.1, block.2 ++ Piece.sourceOf before)) rest := by
  induction before generalizing opened with
  | nil => simp [Piece.sourceOf]
  | cons piece more induction =>
      have later : Undocumented more :=
        fun comment member => plain comment (List.mem_cons_of_mem piece member)
      cases piece with
      | code line =>
          rw [List.cons_append, gather, induction later]
          simp [Piece.sourceOf, Piece.source, Function.comp_def]
      | comment written =>
          have silent := plain written List.mem_cons_self
          rw [List.cons_append, gather, silent, if_neg Bool.false_ne_true, induction later]
          simp [Piece.sourceOf, Piece.source, Function.comp_def]

theorem gather_part (part : Part) (opened : Option (Text × Text)) (rest : List Piece) :
    gather opened (part.pieces ++ rest) =
      (opened.map fun block => close block.1 block.2).toList ++
        gather (some (part.comment.text, part.code)) rest := by
  rw [Part.pieces, List.cons_append, gather, if_pos part.documents,
    gather_append part.undocumented]
  rfl

/-- Each part gives its block, after the block that was open. -/
theorem gather_parts (parts : List Part) (opened : Option (Text × Text)) :
    gather opened (parts.flatMap Part.pieces) =
      (opened.map fun block => close block.1 block.2).toList ++ parts.map Part.block := by
  induction parts generalizing opened with
  | nil => simp [gather]
  | cons part rest induction =>
      rw [List.flatMap_cons, gather_part, induction]
      rfl

end Block

theorem blocksOf_eq_map_block {contents dialect : Text} {lines : List Text} {before : List Piece}
    {parts : List Part} (whole : WholeLines lines) (concat : lines.flatten = contents)
    (plain : Undocumented before)
    (reading : Reading (hasSlashComments dialect) lines (before ++ parts.flatMap Part.pieces)) :
    blocksOf contents dialect = parts.map Part.block := by
  rw [blocksOf, ← concat, Text.lineRuns_flatten whole, ← reading.eq_cut,
    Block.gather_append plain, Block.gather_parts]
  rfl

theorem sourceOf_parts (parts : List Part) :
    Piece.sourceOf (parts.flatMap Part.pieces) =
      parts.flatMap fun part => part.comment.source ++ part.code := by
  rw [Piece.sourceOf, List.flatMap_assoc]
  rfl

theorem exists_parts_of_contents (contents dialect : Text) :
    ∃ (before : List Piece) (parts : List Part),
      Reading (hasSlashComments dialect) contents.lineRuns (before ++ parts.flatMap Part.pieces) ∧
      Undocumented before ∧
      contents =
        Piece.sourceOf before ++ parts.flatMap (fun part => part.comment.source ++ part.code) ∧
      blocksOf contents dialect = parts.map Part.block := by
  have concat := Text.flatten_lineRuns contents
  have reading := reading_cut (hasSlashComments dialect) contents.lineRuns
  rcases exists_parts (Piece.cut (hasSlashComments dialect) none contents.lineRuns) with
    ⟨before, parts, plain, divided⟩
  rw [divided] at reading
  refine ⟨before, parts, reading, plain, ?_, ?_⟩
  · rw [← sourceOf_parts, Piece.sourceOf, Piece.sourceOf, ← List.flatMap_append]
    exact (reading.sourceOf_eq.trans concat).symm
  · exact blocksOf_eq_map_block (Text.wholeLines_lineRuns contents) concat plain reading

/-- Finding the blocks loses, repeats and moves nothing. The whole lines of a stylesheet have one
reading; it divides into pieces that document nothing and then parts, which concatenate to the
stylesheet, and the blocks are those of the parts. -/
theorem blocksOf_divides_contents (contents dialect : Text) :
    ∃ (lines : List Text) (before : List Piece) (parts : List Part),
      WholeLines lines ∧ lines.flatten = contents ∧
      (∀ pieces, Reading (hasSlashComments dialect) lines pieces ↔
        pieces = before ++ parts.flatMap Part.pieces) ∧
      Undocumented before ∧
      contents =
        Piece.sourceOf before ++ parts.flatMap (fun part => part.comment.source ++ part.code) ∧
      blocksOf contents dialect = parts.map Part.block := by
  have whole := Text.wholeLines_lineRuns contents
  have concat := Text.flatten_lineRuns contents
  have reading := reading_cut (hasSlashComments dialect) contents.lineRuns
  rcases exists_parts (Piece.cut (hasSlashComments dialect) none contents.lineRuns) with
    ⟨before, parts, plain, divided⟩
  rw [divided] at reading
  refine ⟨contents.lineRuns, before, parts, whole, concat, ?_, plain, ?_, ?_⟩
  · intro pieces
    rw [reading_iff_eq_cut, divided]
  · rw [← sourceOf_parts, Piece.sourceOf, Piece.sourceOf, ← List.flatMap_append]
    exact (reading.sourceOf_eq.trans concat).symm
  · exact blocksOf_eq_map_block whole concat plain reading

end StyleCatalog
