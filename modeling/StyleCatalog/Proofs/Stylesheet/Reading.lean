import StyleCatalog.Proofs.Text.Markers
import StyleCatalog.Stylesheet.Block

/-! # Reading a stylesheet

`Reading` says what the comments and the code of a stylesheet are, without a scanner that holds an
unfinished comment. Every list of lines has exactly one reading, and cutting finds it:
`reading_iff_eq_cut`.
-/

namespace StyleCatalog

/-! ## Lines of a comment -/

/-- A line of a `//` comment, in a dialect that has them. -/
def IsSlashLine (slashes : Bool) (line : Text) : Prop :=
  slashes = true ∧ "//".toList <+: line.trimStart

/-- The lines of a block comment from its opener on, none of which carries its closer. A closer
counts only after the two characters of the opener. -/
inductive IsOpenBlock : List Text → Prop
  | opener {line inside : Text} (opens : line.trimStart = "/*".toList ++ inside)
      (unclosed : ¬"*/".toList <:+: inside) : IsOpenBlock [line]
  | later {lines : List Text} {line : Text} (opened : IsOpenBlock lines)
      (unclosed : ¬"*/".toList <:+: line) : IsOpenBlock (lines ++ [line])

/-- The lines of a block comment from its opener through the first line that carries its closer. -/
inductive IsClosedBlock : List Text → Prop
  | onOneLine {line inside : Text} (opens : line.trimStart = "/*".toList ++ inside)
      (closes : "*/".toList <:+: inside) : IsClosedBlock [line]
  | later {lines : List Text} {line : Text} (opened : IsOpenBlock lines)
      (closes : "*/".toList <:+: line) : IsClosedBlock (lines ++ [line])

/-- The pieces that make up the lines of a stylesheet. A run of `//` lines is taken as a whole, and
a block comment that is never closed goes on to the end. -/
inductive Reading (slashes : Bool) : List Text → List Piece → Prop
  | done : Reading slashes [] []
  | code {line : Text} {lines : List Text} {pieces : List Piece}
      (noSlashes : ¬IsSlashLine slashes line) (noBlock : ¬"/*".toList <+: line.trimStart)
      (rest : Reading slashes lines pieces) :
      Reading slashes (line :: lines) (.code line :: pieces)
  | slashRun {run lines : List Text} {pieces : List Piece} (nonempty : run ≠ [])
      (marked : ∀ line ∈ run, IsSlashLine slashes line)
      (maximal : ∀ line ∈ lines.head?, ¬IsSlashLine slashes line)
      (rest : Reading slashes lines pieces) :
      Reading slashes (run ++ lines) (.comment ⟨.slashes, run⟩ :: pieces)
  | closedBlock {opened lines : List Text} {pieces : List Piece} (closed : IsClosedBlock opened)
      (rest : Reading slashes lines pieces) :
      Reading slashes (opened ++ lines) (.comment ⟨.block, opened⟩ :: pieces)
  | openBlock {opened : List Text} (unclosed : IsOpenBlock opened) :
      Reading slashes opened [.comment ⟨.block, opened⟩]

theorem not_isSlashLine_of_opens (slashes : Bool) {line inside : Text}
    (opens : line.trimStart = "/*".toList ++ inside) : ¬IsSlashLine slashes line := by
  rintro ⟨-, rest, starts⟩
  rw [opens] at starts
  simp at starts

/-! ## Steps of the cut -/

namespace Piece

variable {slashes : Bool} {line inside : Text} {run held rest : List Text}

/-- The comment that a run of `//` lines has opened, if there are any. -/
def openRun : List Text → Option Comment
  | [] => none
  | first :: more => some ⟨.slashes, first :: more⟩

theorem cut_openRun_nil (run : List Text) :
    cut slashes (openRun run) [] = (openRun run).toList.map .comment := by
  cases run <;> rfl

/-- The pieces from a line on that no open comment holds and no `//` marks. -/
def cutUnmarked (slashes : Bool) (line : Text) (rest : List Text) : List Piece :=
  match Text.dropPrefix? "/*".toList line.trimStart with
  | some inside =>
    if Text.hasInfix "*/".toList inside then
      .comment ⟨.block, [line]⟩ :: cut slashes none rest
    else cut slashes (some ⟨.block, [line]⟩) rest
  | none => .code line :: cut slashes none rest

/-- A line outside a block comment either goes on with the run of `//` lines or ends it. -/
theorem cut_run_cons (run : List Text) (line : Text) (rest : List Text) :
    cut slashes (openRun run) (line :: rest) =
      if slashes && Text.startsWith "//".toList line.trimStart then
        cut slashes (openRun (run ++ [line])) rest
      else
        (openRun run).toList.map .comment ++ cutUnmarked slashes line rest := by
  cases run <;> rfl

theorem cut_block_cons (held : List Text) (line : Text) (rest : List Text) :
    cut slashes (some ⟨.block, held⟩) (line :: rest) =
      if Text.hasInfix "*/".toList line then
        .comment ⟨.block, held ++ [line]⟩ :: cut slashes none rest
      else cut slashes (some ⟨.block, held ++ [line]⟩) rest := by
  rfl

theorem cut_of_isSlashLine (slash : IsSlashLine slashes line) (run rest : List Text) :
    cut slashes (openRun run) (line :: rest) = cut slashes (openRun (run ++ [line])) rest := by
  have starts : (slashes && Text.startsWith "//".toList line.trimStart) = true := by
    rw [slash.1, Text.startsWith_iff.mpr slash.2]
    rfl
  rw [cut_run_cons, if_pos starts]

theorem startsWith_eq_false_of_not_isSlashLine (noSlashes : ¬IsSlashLine slashes line) :
    (slashes && Text.startsWith "//".toList line.trimStart) = false := by
  rw [← Bool.not_eq_true, Bool.and_eq_true, Text.startsWith_iff]
  exact noSlashes

theorem cut_none_cons (noSlashes : ¬IsSlashLine slashes line) (rest : List Text) :
    cut slashes none (line :: rest) = cutUnmarked slashes line rest := by
  have noStart := startsWith_eq_false_of_not_isSlashLine noSlashes
  exact (cut_run_cons [] line rest).trans (if_neg (Bool.eq_false_iff.mp noStart))

/-- Any other line ends a run of `//` lines and is read on its own. -/
theorem cut_of_not_isSlashLine (noSlashes : ¬IsSlashLine slashes line) (run rest : List Text) :
    cut slashes (openRun run) (line :: rest) =
      (openRun run).toList.map .comment ++ cut slashes none (line :: rest) := by
  have noStart := startsWith_eq_false_of_not_isSlashLine noSlashes
  rw [cut_run_cons, if_neg (Bool.eq_false_iff.mp noStart), cut_none_cons noSlashes]

theorem cut_code (noSlashes : ¬IsSlashLine slashes line)
    (noBlock : ¬"/*".toList <+: line.trimStart) (rest : List Text) :
    cut slashes none (line :: rest) = .code line :: cut slashes none rest := by
  rw [cut_none_cons noSlashes, cutUnmarked, Text.dropPrefix?_eq_none_iff.mpr noBlock]

theorem cut_opener_closed (opens : line.trimStart = "/*".toList ++ inside)
    (closes : "*/".toList <:+: inside) (rest : List Text) :
    cut slashes none (line :: rest) = .comment ⟨.block, [line]⟩ :: cut slashes none rest := by
  rw [cut_none_cons (not_isSlashLine_of_opens slashes opens), cutUnmarked,
    Text.dropPrefix?_eq_some_iff.mpr opens]
  exact if_pos (Text.hasInfix_iff.mpr closes)

theorem cut_opener_open (opens : line.trimStart = "/*".toList ++ inside)
    (unclosed : ¬"*/".toList <:+: inside) (rest : List Text) :
    cut slashes none (line :: rest) = cut slashes (some ⟨.block, [line]⟩) rest := by
  rw [cut_none_cons (not_isSlashLine_of_opens slashes opens), cutUnmarked,
    Text.dropPrefix?_eq_some_iff.mpr opens]
  exact if_neg (mt Text.hasInfix_iff.mp unclosed)

theorem cut_block_closes (closes : "*/".toList <:+: line) (held rest : List Text) :
    cut slashes (some ⟨.block, held⟩) (line :: rest) =
      .comment ⟨.block, held ++ [line]⟩ :: cut slashes none rest := by
  rw [cut_block_cons, if_pos (Text.hasInfix_iff.mpr closes)]

theorem cut_block_goes_on (unclosed : ¬"*/".toList <:+: line) (held rest : List Text) :
    cut slashes (some ⟨.block, held⟩) (line :: rest) =
      cut slashes (some ⟨.block, held ++ [line]⟩) rest := by
  rw [cut_block_cons, if_neg (mt Text.hasInfix_iff.mp unclosed)]

end Piece

/-! ## Cutting finds a reading -/

open Piece

theorem Reading.prepend_openRun {slashes : Bool} {run lines : List Text} {pieces : List Piece}
    (marked : ∀ line ∈ run, IsSlashLine slashes line)
    (maximal : ∀ line ∈ lines.head?, ¬IsSlashLine slashes line)
    (rest : Reading slashes lines pieces) :
    Reading slashes (run ++ lines) ((openRun run).toList.map .comment ++ pieces) := by
  cases run with
  | nil => exact rest
  | cons first more => exact .slashRun (by simp) marked maximal rest

theorem reading_cut_opened (slashes : Bool) (lines : List Text) :
    (∀ run : List Text, (∀ line ∈ run, IsSlashLine slashes line) →
      Reading slashes (run ++ lines) (cut slashes (openRun run) lines)) ∧
    ∀ held : List Text, IsOpenBlock held →
      Reading slashes (held ++ lines) (cut slashes (some ⟨.block, held⟩) lines) := by
  -- The lines held by the unfinished comment stand before those still to be cut.
  induction lines with
  | nil =>
      constructor
      · intro run marked
        rw [cut_openRun_nil, ← List.append_nil (List.map _ _)]
        exact Reading.prepend_openRun marked (by simp) .done
      · intro held opened
        rw [List.append_nil]
        exact .openBlock opened
  | cons line rest induction =>
      obtain ⟨afterRun, afterBlock⟩ := induction
      have fresh : Reading slashes rest (cut slashes none rest) := afterRun [] (by simp)
      constructor
      · intro run marked
        by_cases slash : IsSlashLine slashes line
        · rw [cut_of_isSlashLine slash, List.append_cons]
          apply afterRun
          intro other member
          rcases List.mem_append.mp member with before | last
          · exact marked other before
          · rwa [List.mem_singleton.mp last]
        · rw [cut_of_not_isSlashLine slash]
          have maximal : ∀ other ∈ (line :: rest).head?, ¬IsSlashLine slashes other := by
            simpa using slash
          apply Reading.prepend_openRun marked maximal
          by_cases block : "/*".toList <+: line.trimStart
          · rcases block with ⟨inside, opens⟩
            by_cases closes : "*/".toList <:+: inside
            · rw [cut_opener_closed opens.symm closes]
              exact .closedBlock (.onOneLine opens.symm closes) fresh
            · rw [cut_opener_open opens.symm closes]
              exact afterBlock [line] (.opener opens.symm closes)
          · rw [cut_code slash block]
            exact .code slash block fresh
      · intro held opened
        by_cases closes : "*/".toList <:+: line
        · rw [cut_block_closes closes, List.append_cons]
          exact .closedBlock (.later opened closes) fresh
        · rw [cut_block_goes_on closes, List.append_cons]
          exact afterBlock _ (.later opened closes)

theorem reading_cut (slashes : Bool) (lines : List Text) :
    Reading slashes lines (cut slashes none lines) :=
  (reading_cut_opened slashes lines).1 [] (by simp)

/-! ## A reading is the one that cutting finds -/

theorem cut_openRun_append {slashes : Bool} {run : List Text}
    (marked : ∀ line ∈ run, IsSlashLine slashes line) (held rest : List Text) :
    cut slashes (openRun held) (run ++ rest) = cut slashes (openRun (held ++ run)) rest := by
  induction run generalizing held with
  | nil => simp
  | cons line more induction =>
      rw [List.cons_append, cut_of_isSlashLine (marked line List.mem_cons_self),
        induction fun other member => marked other (List.mem_cons_of_mem line member),
        List.append_assoc, List.singleton_append]

theorem cut_openRun_of_maximal {slashes : Bool} {lines : List Text}
    (maximal : ∀ line ∈ lines.head?, ¬IsSlashLine slashes line) (run : List Text) :
    cut slashes (openRun run) lines =
      (openRun run).toList.map .comment ++ cut slashes none lines := by
  cases lines with
  | nil =>
      rw [cut_openRun_nil]
      exact (List.append_nil _).symm
  | cons line rest => exact cut_of_not_isSlashLine (maximal line rfl) run rest

theorem cut_openBlock (slashes : Bool) {opened : List Text} (unclosed : IsOpenBlock opened)
    (rest : List Text) :
    cut slashes none (opened ++ rest) = cut slashes (some ⟨.block, opened⟩) rest := by
  induction unclosed generalizing rest with
  | opener opens unclosed => exact cut_opener_open opens unclosed rest
  | later opened unclosed induction =>
      rw [List.append_assoc, List.singleton_append, induction, cut_block_goes_on unclosed]

theorem cut_closedBlock {slashes : Bool} {opened : List Text} (closed : IsClosedBlock opened)
    (rest : List Text) :
    cut slashes none (opened ++ rest) = .comment ⟨.block, opened⟩ :: cut slashes none rest := by
  cases closed with
  | onOneLine opens closes => exact cut_opener_closed opens closes rest
  | later opened closes =>
      rw [List.append_assoc, List.singleton_append, cut_openBlock slashes opened,
        cut_block_closes closes]

theorem Reading.eq_cut {slashes : Bool} {lines : List Text} {pieces : List Piece}
    (reading : Reading slashes lines pieces) : pieces = cut slashes none lines := by
  induction reading with
  | done => rfl
  | code noSlashes noBlock rest induction => rw [cut_code noSlashes noBlock, induction]
  | @slashRun run lines pieces nonempty marked maximal rest induction =>
      have taken := cut_openRun_append marked [] lines
      rw [List.nil_append, cut_openRun_of_maximal maximal, ← induction] at taken
      cases run with
      | nil => exact absurd rfl nonempty
      | cons first more => exact taken.symm
  | closedBlock closed rest induction => rw [cut_closedBlock closed, induction]
  | @openBlock opened unclosed =>
      have taken := cut_openBlock slashes unclosed []
      rw [List.append_nil] at taken
      exact taken.symm

/-- The lines of a stylesheet have one reading, and cutting finds it. -/
theorem reading_iff_eq_cut {slashes : Bool} {lines : List Text} {pieces : List Piece} :
    Reading slashes lines pieces ↔ pieces = cut slashes none lines := by
  constructor
  · exact Reading.eq_cut
  · rintro rfl
    exact reading_cut slashes lines

/-! ## Nothing is lost -/

/-- The pieces as they stand in the file. -/
def Piece.sourceOf (pieces : List Piece) : Text := pieces.flatMap Piece.source

theorem Reading.sourceOf_eq {slashes : Bool} {lines : List Text} {pieces : List Piece}
    (reading : Reading slashes lines pieces) : sourceOf pieces = lines.flatten := by
  induction reading with
  | done => rfl
  | code _ _ _ induction =>
      rw [sourceOf, List.flatMap_cons, List.flatten_cons, ← induction]
      rfl
  | slashRun _ _ _ _ induction =>
      rw [sourceOf, List.flatMap_cons, List.flatten_append, ← induction]
      rfl
  | closedBlock _ _ induction =>
      rw [sourceOf, List.flatMap_cons, List.flatten_append, ← induction]
      rfl
  | openBlock => simp [sourceOf, Piece.source, Comment.source]

end StyleCatalog
