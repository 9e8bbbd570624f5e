import StyleCatalog.Proofs.Stylesheet.Parts
import StyleCatalog.Proofs.Stylesheet.Writing

/-! # Written stylesheets come back

A stylesheet is written passage by passage: a comment in one of the two styles and the code below
it. The blocks found in it are the texts and the code that it was written from, `blocksOf_written`.
-/

namespace StyleCatalog

/-- A text that documents a section, the style of its comment, and the lines of code below. Nothing
in the text is lost as a comment, and no line of code starts a comment. -/
structure Passage where
  text : Text
  style : CommentStyle
  code : List Text
  documents : declaresSection text = true
  margin : AtMargin (text.splitAtChar '\n')
  unclosed : style = .block → ¬"*/".toList <:+: text
  terminated : ∀ line ∈ code, IsTerminated line
  plain : ∀ line ∈ code, ¬"//".toList <+: line.trimStart ∧ ¬"/*".toList <+: line.trimStart

namespace Passage

def comment (passage : Passage) : Comment := .write passage.style passage.text

def lines (passage : Passage) : List Text := passage.comment.lines ++ passage.code

/-- The passage as it stands in a file. -/
def written (passage : Passage) : Text := passage.comment.source ++ passage.code.flatten

def block (passage : Passage) : Block where
  comment := passage.text
  code := if Text.isBlankLine passage.code.flatten then none else some passage.code.flatten

theorem text_comment (passage : Passage) : passage.comment.text = passage.text :=
  Comment.text_write passage.margin passage.unclosed

def part (passage : Passage) : Part where
  comment := passage.comment
  below := passage.code.map .code
  documents := by rw [text_comment, passage.documents]
  undocumented := by
    intro comment member
    rcases List.mem_map.mp member with ⟨line, -, impossible⟩
    cases impossible

theorem code_part (passage : Passage) : passage.part.code = passage.code.flatten := by
  rw [Part.code, Piece.sourceOf, part, List.flatMap_map]
  exact List.flatMap_id'

theorem block_part (passage : Passage) : passage.part.block = passage.block := by
  rw [Part.block, code_part, block]
  simp only [part, text_comment]

end Passage

/-! ## Whole lines -/

theorem Comment.isTerminated_of_mem_write {style : CommentStyle} {t line : Text}
    (member : line ∈ (Comment.write style t).lines) : IsTerminated line := by
  cases style with
  | slashes =>
      rcases List.mem_map.mp member with ⟨content, contentMember, rfl⟩
      have free := Text.not_mem_of_mem_splitAtChar contentMember
      exact ⟨"// ".toList ++ content, by simp [free], rfl⟩
  | block =>
      rcases List.mem_cons.mp member with rfl | later
      · exact ⟨"/**".toList, by decide, rfl⟩
      rcases List.mem_append.mp later with inside | last
      · rcases List.mem_map.mp inside with ⟨content, contentMember, rfl⟩
        exact Comment.isTerminated_gutterLine (Text.not_mem_of_mem_splitAtChar contentMember)
      · rw [List.mem_singleton.mp last]
        exact ⟨" */".toList, by decide, rfl⟩

theorem Passage.isTerminated_of_mem_lines {passage : Passage} {line : Text}
    (member : line ∈ passage.lines) : IsTerminated line := by
  rcases List.mem_append.mp member with comment | code
  · exact Comment.isTerminated_of_mem_write comment
  · exact passage.terminated line code

theorem wholeLines_passages (passages : List Passage) :
    WholeLines (passages.flatMap Passage.lines) := by
  rw [← List.append_nil (passages.flatMap Passage.lines)]
  refine WholeLines.append ?_ .nil
  intro line member
  rcases List.mem_flatMap.mp member with ⟨passage, -, inPassage⟩
  exact Passage.isTerminated_of_mem_lines inPassage

theorem flatten_lines_passages (passages : List Passage) :
    (passages.flatMap Passage.lines).flatten = passages.flatMap Passage.written := by
  rw [List.flatMap, List.flatten_flatten, List.map_map, List.flatMap]
  congr 1
  apply List.map_congr_left
  intro passage _
  exact List.flatten_append

/-! ## Reading a written stylesheet -/

theorem IsOpenBlock.append {opened more : List Text} (unclosed : IsOpenBlock opened)
    (free : ∀ line ∈ more, ¬"*/".toList <:+: line) : IsOpenBlock (opened ++ more) := by
  induction more generalizing opened with
  | nil => rwa [List.append_nil]
  | cons line rest induction =>
      rw [List.append_cons]
      apply induction (unclosed.later (free line List.mem_cons_self))
      exact fun other member => free other (List.mem_cons_of_mem line member)

theorem isClosedBlock_write {t : Text} (unclosed : ¬"*/".toList <:+: t) :
    IsClosedBlock (Comment.write .block t).lines := by
  have opens : Text.trimStart "/**\n".toList = "/*".toList ++ "*\n".toList := by decide
  have opener : IsOpenBlock ["/**\n".toList] := .opener opens (by decide)
  have opened : IsOpenBlock
      (["/**\n".toList] ++ (t.splitAtChar '\n').map Comment.gutterLine) := by
    apply opener.append
    intro line member
    rcases List.mem_map.mp member with ⟨content, contentMember, rfl⟩
    apply Comment.not_closer_isInfix_gutterLine
    exact fun inContent =>
      unclosed (inContent.trans (Text.isInfix_of_mem_splitAtChar contentMember))
  exact .later opened (by decide)

theorem Reading.prepend_written {style : CommentStyle} {t : Text} {lines : List Text}
    {pieces : List Piece} (unclosed : style = .block → ¬"*/".toList <:+: t)
    (maximal : ∀ line ∈ lines.head?, ¬IsSlashLine true line) (rest : Reading true lines pieces) :
    Reading true ((Comment.write style t).lines ++ lines)
      (.comment (.write style t) :: pieces) := by
  cases style with
  | slashes =>
      refine .slashRun ?_ ?_ maximal rest
      · exact mt List.map_eq_nil_iff.mp (Text.splitAtChar_ne_nil '\n' t)
      · intro line member
        rcases List.mem_map.mp member with ⟨content, -, rfl⟩
        exact ⟨rfl, ' ' :: (content ++ ['\n']), rfl⟩
  | block => exact .closedBlock (isClosedBlock_write (unclosed rfl)) rest

theorem Reading.prepend_code {code lines : List Text} {pieces : List Piece}
    (plain : ∀ line ∈ code, ¬"//".toList <+: line.trimStart ∧ ¬"/*".toList <+: line.trimStart)
    (rest : Reading true lines pieces) :
    Reading true (code ++ lines) (code.map .code ++ pieces) := by
  induction code with
  | nil => exact rest
  | cons line more induction =>
      have here := plain line List.mem_cons_self
      refine .code (fun slash => here.1 slash.2) here.2 (induction ?_)
      exact fun other member => plain other (List.mem_cons_of_mem line member)

/-- Passages are read as they were written. Code below a comment keeps it apart from the next one;
only the last may have none. -/
theorem reading_passages (passages : List Passage)
    (separated : ∀ passage ∈ passages.dropLast, passage.code ≠ []) :
    Reading true (passages.flatMap Passage.lines)
      ((passages.map Passage.part).flatMap Part.pieces) := by
  induction passages with
  | nil => exact .done
  | cons passage rest induction =>
      have later : Reading true (rest.flatMap Passage.lines)
          ((rest.map Passage.part).flatMap Part.pieces) := by
        apply induction
        intro other member
        apply separated
        cases rest with
        | nil => cases member
        | cons next others => exact List.mem_cons_of_mem passage member
      have maximal : ∀ line ∈ (passage.code ++ rest.flatMap Passage.lines).head?,
          ¬IsSlashLine true line := by
        cases code : passage.code with
        | nil =>
            cases rest with
            | nil => simp
            | cons next others => exact absurd code (separated passage (by simp))
        | cons line more =>
            intro other first slash
            cases first
            exact (passage.plain line (by simp [code])).1 slash.2
      have read := Reading.prepend_written passage.unclosed maximal
        (later.prepend_code passage.plain)
      rw [← List.append_assoc] at read
      exact read

/-- Finding blocks undoes writing, in every dialect with `//` comments. -/
theorem blocksOf_written (passages : List Passage)
    (separated : ∀ passage ∈ passages.dropLast, passage.code ≠ []) (dialect : Text)
    (notCss : Text.sameAscii dialect "css".toList = false) :
    blocksOf (passages.flatMap Passage.written) dialect = passages.map Passage.block := by
  have slashes : hasSlashComments dialect = true := by rw [hasSlashComments, notCss]; rfl
  have reading := reading_passages passages separated
  rw [← slashes] at reading
  rw [blocksOf_eq_map_block (wholeLines_passages passages)
    (flatten_lines_passages passages) undocumented_nil reading, List.map_map]
  exact List.map_congr_left fun passage _ => passage.block_part

/-- Stars, slashes, an empty line and an indented one, which all look like marks of a comment. -/
def sampleText : Text := "* Stars\n\n  / // indented\nStyleguide 1".toList

def samplePassage (style : CommentStyle) (code : Text) (free : '\n' ∉ code)
    (plain : ¬"//".toList <+: (code ++ ['\n']).trimStart ∧
      ¬"/*".toList <+: (code ++ ['\n']).trimStart) : Passage where
  text := sampleText
  style := style
  code := [code ++ ['\n']]
  documents := by decide +kernel
  margin := ⟨by decide, by decide, by decide, by decide⟩
  unclosed := fun _ => by decide
  terminated := by
    intro line member
    exact ⟨code, free, List.mem_singleton.mp member⟩
  plain := by
    intro line member
    rwa [List.mem_singleton.mp member]

def samplePassages : List Passage :=
  [samplePassage .slashes "a {} // note".toList (by decide) (by decide),
    samplePassage .block " ".toList (by decide) (by decide)]

theorem blocksOf_samplePassages :
    blocksOf (samplePassages.flatMap Passage.written) "ScSs".toList =
      [⟨sampleText, some "a {} // note\n".toList⟩, ⟨sampleText, none⟩] :=
  blocksOf_written samplePassages (by simp [samplePassages, samplePassage]) _ (by decide)

end StyleCatalog
