import StyleCatalog.Proofs.Stylesheet.Parts
import StyleCatalog.Proofs.Text.LineEnds

/-! # Line ends of a stylesheet

A stylesheet whose line feeds are given carriage returns has the same comments, and its code is the
old code with carriage returns: `blocksOf_withReturns`. The reading of its lines is carried over
piece by piece, and a comment's marks are taken off together with its line ends.
-/

namespace StyleCatalog

open Text

/-- The comment in a stylesheet with carriage returns. -/
def Comment.withReturns (comment : Comment) : Comment where
  style := comment.style
  lines := comment.lines.map Text.withReturns

def Piece.withReturns : Piece → Piece
  | .comment written => .comment written.withReturns
  | .code line => .code line.withReturns

/-- The block in a stylesheet with carriage returns: its comment is the same. -/
def Block.withReturns (block : Block) : Block where
  comment := block.comment
  code := block.code.map Text.withReturns

/-! ## Reading -/

section Reading

variable {slashes : Bool} {line inside : Text} {lines : List Text} {pieces : List Piece}

theorem isSlashLine_withReturns_iff :
    IsSlashLine slashes line.withReturns ↔ IsSlashLine slashes line := by
  have inline : IsInline "//".toList := ⟨by decide, by decide⟩
  rw [IsSlashLine, trimStart_withReturns, isPrefix_withReturns_iff inline, IsSlashLine]

theorem opens_withReturns (opens : line.trimStart = "/*".toList ++ inside) :
    line.withReturns.trimStart = "/*".toList ++ inside.withReturns := by
  rw [trimStart_withReturns, opens, withReturns_append]
  rfl

theorem closer_isInfix_withReturns_iff {t : Text} :
    "*/".toList <:+: t.withReturns ↔ "*/".toList <:+: t :=
  isInfix_withReturns_iff (by decide) ⟨by decide, by decide⟩

theorem IsOpenBlock.withReturns (opened : IsOpenBlock lines) :
    IsOpenBlock (lines.map Text.withReturns) := by
  induction opened with
  | opener opens unclosed =>
      exact .opener (opens_withReturns opens) (mt closer_isInfix_withReturns_iff.mp unclosed)
  | later opened unclosed induction =>
      rw [List.map_append]
      exact .later induction (mt closer_isInfix_withReturns_iff.mp unclosed)

theorem IsClosedBlock.withReturns (closed : IsClosedBlock lines) :
    IsClosedBlock (lines.map Text.withReturns) := by
  cases closed with
  | onOneLine opens closes =>
      exact .onOneLine (opens_withReturns opens) (closer_isInfix_withReturns_iff.mpr closes)
  | later opened closes =>
      rw [List.map_append]
      exact .later opened.withReturns (closer_isInfix_withReturns_iff.mpr closes)

/-- The lines with carriage returns are read in the same way. -/
theorem Reading.withReturns (reading : Reading slashes lines pieces) :
    Reading slashes (lines.map Text.withReturns) (pieces.map Piece.withReturns) := by
  induction reading with
  | done => exact .done
  | @code line lines pieces noSlashes noBlock rest induction =>
      have inline : IsInline "/*".toList := ⟨by decide, by decide⟩
      refine .code (mt isSlashLine_withReturns_iff.mp noSlashes) ?_ induction
      rwa [trimStart_withReturns, isPrefix_withReturns_iff inline]
  | @slashRun run lines pieces nonempty marked maximal rest induction =>
      rw [List.map_append]
      refine .slashRun (mt List.map_eq_nil_iff.mp nonempty) ?_ ?_ induction
      · exact List.forall_mem_map.mpr fun line member =>
          isSlashLine_withReturns_iff.mpr (marked line member)
      · intro next isNext
        rw [List.head?_map] at isNext
        rcases Option.map_eq_some_iff.mp isNext with ⟨line, first, rfl⟩
        exact mt isSlashLine_withReturns_iff.mp (maximal line first)
  | closedBlock closed rest induction =>
      rw [List.map_append]
      exact .closedBlock closed.withReturns induction
  | openBlock unclosed => exact .openBlock unclosed.withReturns

theorem cut_withReturns (slashes : Bool) (lines : List Text) :
    Piece.cut slashes none (lines.map Text.withReturns) =
      (Piece.cut slashes none lines).map Piece.withReturns :=
  (reading_cut slashes lines).withReturns.eq_cut.symm

/-- The lines of a comment are lines of the stylesheet. -/
theorem Reading.lines_subset (reading : Reading slashes lines pieces) {written : Comment}
    (member : .comment written ∈ pieces) : written.lines ⊆ lines := by
  induction reading with
  | done => cases member
  | code _ _ _ induction =>
      rcases List.mem_cons.mp member with impossible | later
      · cases impossible
      · exact List.subset_cons_of_subset _ (induction later)
  | slashRun _ _ _ _ induction =>
      rcases List.mem_cons.mp member with here | later
      · cases here
        exact List.subset_append_left _ _
      · exact List.subset_append_of_subset_right _ (induction later)
  | closedBlock _ _ induction =>
      rcases List.mem_cons.mp member with here | later
      · cases here
        exact List.subset_append_left _ _
      · exact List.subset_append_of_subset_right _ (induction later)
  | openBlock =>
      cases List.mem_singleton.mp member
      exact List.Subset.refl _

end Reading

/-! ## Comments -/

namespace Comment

theorem afterOptional_withReturns {mark : Char} (inline : IsInline [mark]) (t : Text) :
    afterOptional mark t.withReturns = (afterOptional mark t).withReturns := by
  rw [IsInline, List.mem_singleton, List.mem_singleton] at inline
  cases t with
  | nil => rfl
  | cons c rest =>
      by_cases feed : c = '\n'
      · subst feed
        rw [withReturns_newline, afterOptional, if_neg inline.1, afterOptional, if_neg inline.2]
        rfl
      · rw [withReturns_cons feed, afterOptional, afterOptional]
        split
        · rfl
        · rw [withReturns_cons feed]

theorem afterOptional_isSuffix (mark : Char) (t : Text) : afterOptional mark t <:+ t := by
  cases t with
  | nil => exact List.suffix_rfl
  | cons c rest =>
      rw [afterOptional]
      split
      · exact List.suffix_cons c rest
      · exact List.suffix_rfl

/-- What stands after the two slashes of a `//` line. -/
def afterSlashes (line : Text) : Text :=
  (dropPrefix? "//".toList line.trimStart).getD line.trimStart

/-- The text of a `//` line, before the white space at its end is dropped. -/
def slashBody (line : Text) : Text := afterOptional ' ' (afterOptional '/' (afterSlashes line))

theorem slashText_eq (line : Text) : slashText line = (slashBody line).trimEnd := rfl

theorem afterSlashes_withReturns (line : Text) :
    afterSlashes line.withReturns = (afterSlashes line).withReturns := by
  have inline : IsInline "//".toList := ⟨by decide, by decide⟩
  rw [afterSlashes, trimStart_withReturns, dropPrefix?_withReturns inline, afterSlashes]
  cases dropPrefix? "//".toList line.trimStart <;> rfl

theorem slashBody_withReturns (line : Text) :
    slashBody line.withReturns = (slashBody line).withReturns := by
  rw [slashBody, afterSlashes_withReturns, afterOptional_withReturns ⟨by decide, by decide⟩,
    afterOptional_withReturns ⟨by decide, by decide⟩, slashBody]

theorem afterSlashes_isSuffix (line : Text) : afterSlashes line <:+ line := by
  have start := trimStart_isSuffix line
  rw [afterSlashes]
  cases found : dropPrefix? "//".toList line.trimStart with
  | none => exact start
  | some rest =>
      have inBody : rest <:+ line.trimStart := ⟨_, (dropPrefix?_eq_some_iff.mp found).symm⟩
      exact inBody.trans start

theorem slashBody_isSuffix (line : Text) : slashBody line <:+ line :=
  ((afterOptional_isSuffix ' ' _).trans (afterOptional_isSuffix '/' _)).trans
    (afterSlashes_isSuffix line)

/-- The text of a `//` line does not hold its line end. -/
theorem slashText_withReturns {line : Text} (isLine : IsLine line) :
    slashText line.withReturns = slashText line := by
  have noFeed := (isLine.of_isSuffix (slashBody_isSuffix line)).newline_not_mem_trimEnd
  rw [slashText_eq, slashBody_withReturns, trimEnd_withReturns, withReturns_of_not_mem noFeed,
    slashText_eq]

theorem source_withReturns (comment : Comment) :
    comment.withReturns.source = comment.source.withReturns :=
  (withReturns_flatten comment.lines).symm

/-- What stands after the opener of a block comment. -/
def afterOpener (raw : Text) : Text := ((cutAt? "/*".toList raw).map Prod.snd).getD raw

/-- What stands before the first closer. -/
def beforeCloser (raw : Text) : Text := ((cutAt? "*/".toList raw).map Prod.fst).getD raw

theorem blockInside_eq (raw : Text) :
    blockInside raw = beforeCloser ((afterOpener raw).dropWhile (· = '*')) := rfl

theorem afterOpener_withReturns (raw : Text) :
    afterOpener raw.withReturns = (afterOpener raw).withReturns := by
  rw [afterOpener, cutAt?_withReturns (by decide) ⟨by decide, by decide⟩, afterOpener]
  cases cutAt? "/*".toList raw <;> rfl

theorem beforeCloser_withReturns (raw : Text) :
    beforeCloser raw.withReturns = (beforeCloser raw).withReturns := by
  rw [beforeCloser, cutAt?_withReturns (by decide) ⟨by decide, by decide⟩, beforeCloser]
  cases cutAt? "*/".toList raw <;> rfl

theorem blockInside_withReturns (raw : Text) :
    blockInside raw.withReturns = (blockInside raw).withReturns := by
  rw [blockInside_eq, afterOpener_withReturns, dropWhile_withReturns (by decide),
    beforeCloser_withReturns, blockInside_eq]

theorem afterOpener_isSuffix (raw : Text) : afterOpener raw <:+ raw := by
  rw [afterOpener]
  cases found : cutAt? "/*".toList raw with
  | none => exact List.suffix_rfl
  | some cut =>
      have whole := eq_append_of_cutAt? found
      rw [← List.append_assoc] at whole
      exact ⟨_, whole.symm⟩

theorem beforeCloser_isPrefix (raw : Text) : beforeCloser raw <+: raw := by
  rw [beforeCloser]
  cases found : cutAt? "*/".toList raw with
  | none => exact List.prefix_rfl
  | some cut => exact ⟨_, (eq_append_of_cutAt? found).symm⟩

theorem blockInside_isInfix (raw : Text) : blockInside raw <:+: raw := by
  have inner : (afterOpener raw).dropWhile (· = '*') <:+ raw :=
    (List.dropWhile_suffix _).trans (afterOpener_isSuffix raw)
  exact (beforeCloser_isPrefix _).isInfix.trans inner.isInfix

theorem blockLines_withReturns {raw : Text} (noReturn : '\r' ∉ raw) :
    blockLines raw.withReturns = blockLines raw := by
  have inside : '\r' ∉ blockInside raw := fun member =>
    noReturn ((blockInside_isInfix raw).subset member)
  rw [blockLines, blockInside_withReturns, lines_withReturns inside, blockLines]

theorem text_withReturns {comment : Comment} (isLine : ∀ line ∈ comment.lines, IsLine line)
    (noReturn : '\r' ∉ comment.source) : comment.withReturns.text = comment.text := by
  rcases comment with ⟨style, lines⟩
  cases style with
  | slashes =>
      have same : (lines.map Text.withReturns).map slashText = lines.map slashText := by
        rw [List.map_map]
        exact List.map_congr_left fun line member => slashText_withReturns (isLine line member)
      exact congrArg (fun stripped => unlines (dedent stripped)) same
  | block =>
      have same : blockLines (Comment.withReturns ⟨.block, lines⟩).source =
          blockLines (Comment.source ⟨.block, lines⟩) := by
        rw [source_withReturns, blockLines_withReturns noReturn]
      exact congrArg (fun stripped => unlines (dedent stripped)) same

end Comment

/-! ## Blocks -/

namespace Block

theorem close_withReturns (comment code : Text) :
    close comment code.withReturns = (close comment code).withReturns := by
  rw [close, isBlankLine_withReturns, close, Block.withReturns]
  split <;> rfl

/-- An open block in a stylesheet with carriage returns. -/
def openWithReturns (opened : Option (Text × Text)) : Option (Text × Text) :=
  opened.map fun block => (block.1, block.2.withReturns)

theorem map_append_openWithReturns (opened : Option (Text × Text)) (source : Text) :
    (openWithReturns opened).map (fun block => (block.1, block.2 ++ source.withReturns)) =
      openWithReturns (opened.map fun block => (block.1, block.2 ++ source)) := by
  cases opened with
  | none => rfl
  | some block => simp only [openWithReturns, Option.map_some, withReturns_append]

theorem map_close_openWithReturns (opened : Option (Text × Text)) :
    ((openWithReturns opened).map fun block => close block.1 block.2).toList =
      (opened.map fun block => close block.1 block.2).toList.map Block.withReturns := by
  cases opened with
  | none => rfl
  | some block => exact congrArg (fun closed => [closed]) (close_withReturns block.1 block.2)

theorem gather_withReturns {pieces : List Piece}
    (sameText : ∀ written, .comment written ∈ pieces → written.withReturns.text = written.text)
    (opened : Option (Text × Text)) :
    gather (openWithReturns opened) (pieces.map Piece.withReturns) =
      (gather opened pieces).map Block.withReturns := by
  induction pieces generalizing opened with
  | nil => exact map_close_openWithReturns opened
  | cons piece rest induction =>
      have later := induction fun written member =>
        sameText written (List.mem_cons_of_mem piece member)
      cases piece with
      | code line =>
          rw [List.map_cons, Piece.withReturns, gather, map_append_openWithReturns, later, gather]
      | comment written =>
          rw [List.map_cons, Piece.withReturns, gather, sameText written List.mem_cons_self, gather]
          split
          · rw [map_close_openWithReturns, List.map_append]
            exact congrArg _ (later (some (written.text, [])))
          · rw [Comment.source_withReturns, map_append_openWithReturns, later]

end Block

/-- Carriage returns before the line feeds of a stylesheet show in the code of its blocks and
nowhere else. -/
theorem blocksOf_withReturns {contents : Text} (noReturn : '\r' ∉ contents) (dialect : Text) :
    blocksOf contents.withReturns dialect = (blocksOf contents dialect).map Block.withReturns := by
  have reading := reading_cut (hasSlashComments dialect) contents.lineRuns
  rw [blocksOf, lineRuns_withReturns, cut_withReturns]
  refine Block.gather_withReturns (fun written member => ?_) none
  have within := reading.lines_subset member
  apply Comment.text_withReturns
  · exact fun line inComment => (wholeLines_lineRuns contents).isLine line (within inComment)
  · intro inSource
    rcases List.mem_flatten.mp inSource with ⟨line, inComment, inLine⟩
    have inLines := List.mem_flatten.mpr ⟨line, within inComment, inLine⟩
    rw [flatten_lineRuns] at inLines
    exact noReturn inLines

end StyleCatalog
