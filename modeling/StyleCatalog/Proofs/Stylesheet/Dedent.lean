import Mathlib.Data.List.Forall2
import StyleCatalog.Proofs.Text.Bytes
import StyleCatalog.Proofs.Text.Trimming
import StyleCatalog.Stylesheet.Dedent

/-! # Moving lines to the left

What `dedent` takes off its lines: the blank ones around them and some of the white space in front
of each, never a part of a character. `dedent_takes_shared_indent` says how much, and that nothing
is left to take. `dedent_padded` says when lines come back as they were.
-/

namespace StyleCatalog

/-! ## Cutting off bytes -/

namespace Text

theorem dropBytes?_append (gap rest : Text) :
    dropBytes? (byteLength gap) (gap ++ rest) = some rest := by
  induction gap with
  | nil => cases rest <;> rfl
  | cons c more induction =>
      have size := c.utf8Size_pos
      obtain ⟨count, whole⟩ : ∃ count, byteLength (c :: more) = count + 1 :=
        Nat.exists_eq_add_one.mpr (by rw [byteLength]; omega)
      have fits : c.utf8Size ≤ count + 1 := by rw [← whole, byteLength]; omega
      have left : count + 1 - c.utf8Size = byteLength more := by rw [← whole, byteLength]; omega
      rw [whole, List.cons_append, dropBytes?, if_pos fits, left, induction]

/-- Bytes are cut off only between two characters. -/
theorem exists_gap_of_dropBytes? {count : Nat} {t rest : Text}
    (found : dropBytes? count t = some rest) :
    ∃ gap, t = gap ++ rest ∧ byteLength gap = count := by
  induction t generalizing count with
  | nil =>
      cases count with
      | zero => exact ⟨[], Option.some.inj found, rfl⟩
      | succ count => cases found
  | cons c more induction =>
      cases count with
      | zero => exact ⟨[], Option.some.inj found, rfl⟩
      | succ count =>
          rw [dropBytes?] at found
          split at found
          · rename_i fits
            rcases induction found with ⟨gap, shape, size⟩
            refine ⟨c :: gap, congrArg (c :: ·) shape, ?_⟩
            rw [byteLength, size]
            omega
          · cases found

/-- Between ASCII characters bytes can be cut off anywhere. -/
theorem exists_dropBytes?_of_ascii {count : Nat} {gap : Text} (ascii : ∀ c ∈ gap, c.toNat < 128)
    (fits : count ≤ byteLength gap) (rest : Text) :
    ∃ left, dropBytes? count (gap ++ rest) = some left := by
  have cutAscii : ∀ c ∈ gap.take count, c.toNat < 128 :=
    fun c member => ascii c (List.mem_of_mem_take member)
  have size : byteLength (gap.take count) = count := by
    rw [byteLength_of_ascii ascii] at fits
    rw [byteLength_of_ascii cutAscii, List.length_take, Nat.min_eq_left fits]
  have cut := dropBytes?_append (gap.take count) (gap.drop count ++ rest)
  rw [← List.append_assoc, List.take_append_drop, size] at cut
  exact ⟨_, cut⟩

end Text

open Text

/-! ## Blank lines around -/

theorem withoutOuterBlanks_padded {above lines below : List Text}
    (aboveBlank : ∀ line ∈ above, line.isBlankLine = true)
    (belowBlank : ∀ line ∈ below, line.isBlankLine = true) (nonempty : lines ≠ [])
    (firstSolid : ∀ line ∈ lines.head?, line.isBlankLine = false)
    (lastSolid : ∀ line ∈ lines.getLast?, line.isBlankLine = false) :
    withoutOuterBlanks (above ++ (lines ++ below)) = lines := by
  have start : (lines ++ below).dropWhile Text.isBlankLine = lines ++ below := by
    apply dropWhile_eq_self_iff_head?.mpr
    rwa [List.head?_append_of_ne_nil lines nonempty]
  have finish : lines.reverse.dropWhile Text.isBlankLine = lines.reverse := by
    apply dropWhile_eq_self_iff_head?.mpr
    rwa [List.head?_reverse]
  have reversedBlank : ∀ line ∈ below.reverse, line.isBlankLine = true :=
    fun line member => belowBlank line (List.mem_reverse.mp member)
  rw [withoutOuterBlanks, List.dropWhile_append_of_pos aboveBlank, start, List.reverse_append,
    List.dropWhile_append_of_pos reversedBlank, finish, List.reverse_reverse]

theorem head?_withoutOuterBlanks (lines : List Text) :
    ∀ line ∈ (withoutOuterBlanks lines).head?, line.isBlankLine = false := by
  intro line first
  rcases List.rdropWhile_prefix isBlankLine (lines.dropWhile isBlankLine) with ⟨below, shape⟩
  apply dropWhile_eq_self_iff_head?.mp (List.dropWhile_idempotent isBlankLine lines)
  rw [← shape, List.head?_append]
  exact Option.or_eq_some_iff.mpr (.inl first)

theorem getLast?_withoutOuterBlanks (lines : List Text) :
    ∀ line ∈ (withoutOuterBlanks lines).getLast?, line.isBlankLine = false :=
  rdropWhile_eq_self_iff_getLast?.mp (List.rdropWhile_idempotent isBlankLine _)

theorem exists_outer_blanks (lines : List Text) :
    ∃ above below, lines = above ++ (withoutOuterBlanks lines ++ below) ∧
      ∀ line ∈ above ++ below, line.isBlankLine = true := by
  refine ⟨lines.takeWhile isBlankLine, (lines.dropWhile isBlankLine).rtakeWhile isBlankLine, ?_, ?_⟩
  · have trimmed := List.rdropWhile_append_rtakeWhile (p := isBlankLine)
      (l := lines.dropWhile isBlankLine)
    calc
      lines = lines.takeWhile isBlankLine ++ lines.dropWhile isBlankLine :=
        List.takeWhile_append_dropWhile.symm
      _ = _ := congrArg _ trimmed.symm
  · rw [List.forall_mem_append]
    exact ⟨fun _ => List.mem_takeWhile_imp, fun _ => List.mem_rtakeWhile_imp⟩

theorem withoutOuterBlanks_isInfix (lines : List Text) : withoutOuterBlanks lines <:+: lines := by
  rcases exists_outer_blanks lines with ⟨above, below, shape, -⟩
  rw [← List.append_assoc] at shape
  exact ⟨above, below, shape.symm⟩

theorem withoutOuterBlanks_eq_nil_iff {lines : List Text} :
    withoutOuterBlanks lines = [] ↔ ∀ line ∈ lines, line.isBlankLine = true := by
  constructor
  · intro none
    rcases exists_outer_blanks lines with ⟨above, below, shape, blank⟩
    rw [none, List.nil_append] at shape
    rwa [shape]
  · intro blank
    have skipped : lines.dropWhile isBlankLine = [] := List.dropWhile_eq_nil_iff.mpr blank
    rw [withoutOuterBlanks, skipped]
    rfl

/-! ## The shared indentation -/

section SharedIndent

variable {lines : List Text} {line : Text}

theorem exists_least_indent (member : line ∈ lines) (solid : line.isBlankLine = false) :
    ((lines.filter fun other => !other.isBlankLine).map indentOf).min? =
      some (sharedIndent lines) := by
  have inSolid : indentOf line ∈ (lines.filter fun other => !other.isBlankLine).map indentOf :=
    List.mem_map_of_mem (List.mem_filter.mpr ⟨member, by rw [solid]; rfl⟩)
  rw [sharedIndent]
  cases least : ((lines.filter fun other => !other.isBlankLine).map indentOf).min? with
  | none =>
      rw [List.min?_eq_none_iff.mp least] at inSolid
      cases inSolid
  | some indent => rfl

theorem sharedIndent_le (member : line ∈ lines) (solid : line.isBlankLine = false) :
    sharedIndent lines ≤ indentOf line := by
  apply (List.min?_eq_some_iff.mp (exists_least_indent member solid)).2
  exact List.mem_map_of_mem (List.mem_filter.mpr ⟨member, by rw [solid]; rfl⟩)

/-- Some line has no more than the shared indentation. -/
theorem exists_indentOf_eq_sharedIndent (member : line ∈ lines)
    (solid : line.isBlankLine = false) :
    ∃ least ∈ lines, least.isBlankLine = false ∧ indentOf least = sharedIndent lines := by
  have attained := (List.min?_eq_some_iff.mp (exists_least_indent member solid)).1
  rcases List.mem_map.mp attained with ⟨least, inSolid, same⟩
  rw [List.mem_filter, Bool.not_eq_true'] at inSolid
  exact ⟨least, inSolid.1, inSolid.2, same⟩

theorem indentOf_eq_zero (unindented : line.trimStart = line) : indentOf line = 0 := by
  have solid := trimStart_eq_self_iff.mp unindented
  cases line with
  | nil => rfl
  | cons c rest => simp [indentOf, solid c rfl, byteLength]

theorem sharedIndent_eq_zero (member : line ∈ lines) (solid : line.isBlankLine = false)
    (unindented : line.trimStart = line) : sharedIndent lines = 0 :=
  Nat.eq_zero_of_le_zero (indentOf_eq_zero unindented ▸ sharedIndent_le member solid)

end SharedIndent

/-! ## One line -/

/-- A line before and after it is moved to the left. A blank line becomes empty; any other loses
white space in front of it: `count` bytes, or else all that there is. Where all of it is ASCII that
is `count` characters. -/
inductive MovedLeft (count : Nat) : Text → Text → Prop
  | blank {line : Text} (blank : line.isBlankLine = true) : MovedLeft count line []
  | solid {gap rest : Text} (blank : gap.isBlankLine = true) (solid : rest.isBlankLine = false)
      (bytes : gap.byteLength = count ∨ rest.trimStart = rest)
      (ascii : (∀ c ∈ (gap ++ rest).takeWhile isBlank, c.toNat < 128) → gap.length = count) :
      MovedLeft count (gap ++ rest) rest

section OneLine

variable {count : Nat} {line : Text}

theorem MovedLeft.isSuffix {moved : Text} (step : MovedLeft count line moved) : moved <:+ line := by
  cases step with
  | blank => exact List.nil_suffix
  | @solid gap => exact List.suffix_append gap moved

theorem MovedLeft.isBlankLine_eq {moved : Text} (step : MovedLeft count line moved) :
    moved.isBlankLine = line.isBlankLine := by
  cases step with
  | blank blank => exact blank.symm
  | solid blank solid => rw [isBlankLine_append, blank, Bool.true_and]

theorem outdentLine_of_isBlankLine (blank : line.isBlankLine = true) :
    outdentLine count line = [] := by
  rw [outdentLine, if_pos blank]

theorem outdentLine_of_solid (solid : line.isBlankLine = false) :
    outdentLine count line = (line.dropBytes? count).getD line.trimStart := by
  rw [outdentLine, if_neg (by rw [solid]; exact Bool.false_ne_true)]

theorem outdentLine_indentOf (solid : line.isBlankLine = false) :
    outdentLine (indentOf line) line = line.trimStart := by
  have cut := dropBytes?_append (line.takeWhile isBlank) line.trimStart
  rw [takeWhile_append_trimStart] at cut
  rw [outdentLine_of_solid solid, indentOf, cut, Option.getD_some]

theorem movedLeft_outdentLine (fits : line.isBlankLine = false → count ≤ indentOf line) :
    MovedLeft count line (outdentLine count line) := by
  cases solid : line.isBlankLine with
  | true =>
      rw [outdentLine_of_isBlankLine solid]
      exact .blank solid
  | false =>
      rw [outdentLine_of_solid solid]
      have whole := takeWhile_append_trimStart line
      cases cut : line.dropBytes? count with
      | some rest =>
          rcases exists_gap_of_dropBytes? cut with ⟨gap, rfl, size⟩
          have within : gap <+: (gap ++ rest).takeWhile isBlank :=
            isPrefix_of_byteLength_le (List.prefix_append gap rest) (List.takeWhile_prefix isBlank)
              (size ▸ fits solid)
          have blank : gap.isBlankLine = true := isBlankLine_iff.mpr fun c member =>
            List.mem_takeWhile_imp (within.subset member)
          rw [isBlankLine_append, blank, Bool.true_and] at solid
          refine .solid blank solid (.inl size) fun ascii => ?_
          rw [← byteLength_of_ascii fun c member => ascii c (within.subset member), size]
      | none =>
          have blank := isBlankLine_takeWhile line
          have restSolid : line.trimStart.isBlankLine = false := by
            rwa [← whole, isBlankLine_append, blank, Bool.true_and] at solid
          have step : MovedLeft count (line.takeWhile isBlank ++ line.trimStart) line.trimStart := by
            refine .solid blank restSolid (.inr (trimStart_trimStart line)) fun ascii => ?_
            rw [whole] at ascii
            rcases exists_dropBytes?_of_ascii ascii (fits solid) line.trimStart with ⟨left, cuts⟩
            rw [whole, cut] at cuts
            cases cuts
          rwa [whole] at step

end OneLine

/-! ## All lines -/

/-- Lines that have no blank one around them, no blank one that is not empty, and one without
indentation. -/
structure IsDedented (lines : List Text) : Prop where
  firstSolid : ∀ line ∈ lines.head?, line.isBlankLine = false
  lastSolid : ∀ line ∈ lines.getLast?, line.isBlankLine = false
  emptied : ∀ line ∈ lines, line.isBlankLine = true → line = []
  unindented : ∃ line ∈ lines, line.isBlankLine = false ∧ line.trimStart = line

theorem outdentLine_zero {line : Text} (emptied : line.isBlankLine = true → line = []) :
    outdentLine 0 line = line := by
  rw [outdentLine]
  split
  · rename_i blank
    exact (emptied blank).symm
  · cases line <;> rfl

/-- Dedented lines lose only the blank lines around them. -/
theorem dedent_padded (above below : List Text) {lines : List Text}
    (aboveBlank : ∀ line ∈ above, line.isBlankLine = true)
    (belowBlank : ∀ line ∈ below, line.isBlankLine = true) (dedented : IsDedented lines) :
    dedent (above ++ (lines ++ below)) = lines := by
  rcases dedented.unindented with ⟨line, member, solid, unindented⟩
  have kept := withoutOuterBlanks_padded aboveBlank belowBlank (List.ne_nil_of_mem member)
    dedented.firstSolid dedented.lastSolid
  rw [dedent, kept, sharedIndent_eq_zero member solid unindented]
  have unmoved : ∀ other ∈ lines, outdentLine 0 other = id other :=
    fun other otherMember => outdentLine_zero (dedented.emptied other otherMember)
  exact (List.map_congr_left unmoved).trans (List.map_id lines)

theorem dedent_eq_nil_iff {lines : List Text} :
    dedent lines = [] ↔ ∀ line ∈ lines, line.isBlankLine = true := by
  rw [dedent, List.map_eq_nil_iff, withoutOuterBlanks_eq_nil_iff]

theorem movedLeft_of_mem {lines : List Text} {line : Text} (member : line ∈ lines) :
    MovedLeft (sharedIndent lines) line (outdentLine (sharedIndent lines) line) :=
  movedLeft_outdentLine fun solid => sharedIndent_le member solid

theorem exists_line_of_mem_dedent {lines : List Text} {moved : Text} (member : moved ∈ dedent lines) :
    ∃ line ∈ lines, moved <:+ line := by
  rcases List.mem_map.mp member with ⟨line, kept, rfl⟩
  exact ⟨line, (withoutOuterBlanks_isInfix lines).subset kept, (movedLeft_of_mem kept).isSuffix⟩

theorem forall₂_movedLeft_dedent (lines : List Text) :
    List.Forall₂ (MovedLeft (sharedIndent (withoutOuterBlanks lines))) (withoutOuterBlanks lines)
      (dedent lines) := by
  rw [dedent, List.forall₂_map_right_iff, List.forall₂_same]
  exact fun line => movedLeft_of_mem

theorem isDedented_dedent {lines : List Text} (nonempty : dedent lines ≠ []) :
    IsDedented (dedent lines) := by
  have first := head?_withoutOuterBlanks lines
  have last := getLast?_withoutOuterBlanks lines
  rw [dedent] at nonempty ⊢
  generalize withoutOuterBlanks lines = kept at first last nonempty ⊢
  constructor
  case firstSolid =>
    intro moved isFirst
    rw [List.head?_map] at isFirst
    rcases Option.map_eq_some_iff.mp isFirst with ⟨line, here, rfl⟩
    rw [(movedLeft_of_mem (List.mem_of_head? here)).isBlankLine_eq, first line here]
  case lastSolid =>
    intro moved isLast
    rw [List.getLast?_map] at isLast
    rcases Option.map_eq_some_iff.mp isLast with ⟨line, here, rfl⟩
    rw [(movedLeft_of_mem (List.mem_of_getLast? here)).isBlankLine_eq, last line here]
  case emptied =>
    intro moved member blank
    rcases List.mem_map.mp member with ⟨line, inKept, rfl⟩
    rw [(movedLeft_of_mem inKept).isBlankLine_eq] at blank
    exact outdentLine_of_isBlankLine blank
  case unindented =>
    -- The line that the shared indentation is taken from loses all of its own.
    rcases List.exists_cons_of_ne_nil (mt List.map_eq_nil_iff.mpr nonempty) with ⟨line, more, rfl⟩
    rcases exists_indentOf_eq_sharedIndent List.mem_cons_self (first line rfl) with
      ⟨least, inKept, solid, same⟩
    have moved := movedLeft_of_mem inKept
    have trimmed := outdentLine_indentOf solid
    rw [same] at trimmed
    refine ⟨_, List.mem_map_of_mem inKept, moved.isBlankLine_eq.trans solid, ?_⟩
    rw [trimmed, trimStart_trimStart]

theorem dedent_dedent (lines : List Text) : dedent (dedent lines) = dedent lines := by
  by_cases empty : dedent lines = []
  · rw [empty]
    rfl
  · have unmoved := dedent_padded [] [] (List.forall_mem_nil _) (List.forall_mem_nil _)
      (isDedented_dedent empty)
    rwa [List.nil_append, List.append_nil] at unmoved

/-- Dedenting keeps the lines from the first to the last one that is not blank, empties the blank
ones among them and takes white space in front of the others, never a part of a character. All
lines that are indented by ASCII white space lose the same number of characters, some line loses
its whole indentation, and a second time there is nothing left to take. -/
theorem dedent_takes_shared_indent (lines : List Text) :
    (∃ above kept below count, lines = above ++ (kept ++ below) ∧
        (∀ line ∈ above ++ below, line.isBlankLine = true) ∧
        (∀ line ∈ kept.head?, line.isBlankLine = false) ∧
        (∀ line ∈ kept.getLast?, line.isBlankLine = false) ∧
        List.Forall₂ (MovedLeft count) kept (dedent lines)) ∧
      (dedent lines = [] ↔ ∀ line ∈ lines, line.isBlankLine = true) ∧
      (dedent lines ≠ [] → ∃ line ∈ dedent lines, ∃ c ∈ line.head?, isBlank c = false) ∧
      dedent (dedent lines) = dedent lines := by
  refine ⟨?_, dedent_eq_nil_iff, fun nonempty => ?_, dedent_dedent lines⟩
  · rcases exists_outer_blanks lines with ⟨above, below, shape, blank⟩
    exact ⟨above, withoutOuterBlanks lines, below, _, shape, blank, head?_withoutOuterBlanks lines,
      getLast?_withoutOuterBlanks lines, forall₂_movedLeft_dedent lines⟩
  · rcases (isDedented_dedent nonempty).unindented with ⟨line, member, solid, unindented⟩
    cases line with
    | nil => cases solid
    | cons c rest => exact ⟨c :: rest, member, c, rfl, trimStart_eq_self_iff.mp unindented c rfl⟩

/-- Lines that share two bytes of indentation, which end inside the wide blank of the third. -/
def unevenLines : List Text :=
  ["  ".toList, "   a ".toList, "\u3000b".toList, " \t".toList, "  c".toList]

/-- The wide blank goes as a whole, and one of three narrow blanks stays. -/
theorem dedent_unevenLines :
    let moved := [" a ".toList, "b".toList, [], "c".toList]
    dedent unevenLines = moved ∧ dedent moved = moved ∧
      ∃ line ∈ moved, ∃ c ∈ line.head?, isBlank c = false := by
  intro moved
  have result : dedent unevenLines = moved := by decide +kernel
  have laws := dedent_takes_shared_indent unevenLines
  rw [result] at laws
  exact ⟨result, laws.2.2.2, laws.2.2.1 (List.cons_ne_nil _ _)⟩

end StyleCatalog
