import StyleCatalog.Proofs.Comment.Blanks
import StyleCatalog.Proofs.Text.Markers

/-! # Line ends

A line may end in a line feed or in a carriage return and a line feed. Trimming, searching for a
mark within a line and cutting into lines do not tell the two apart: each can be done before or
after the carriage returns are added.
-/

namespace StyleCatalog

namespace Text

/-- The text with a carriage return before each line feed. -/
def withReturns (t : Text) : Text := t.flatMap fun c => if c = '\n' then ['\r', '\n'] else [c]

/-- The text with each pair of a carriage return and a line feed turned into the line feed. -/
def withFeeds (t : Text) : Text := replaceAll ['\r', '\n'] ['\n'] t

theorem withReturns_append (t u : Text) :
    withReturns (t ++ u) = withReturns t ++ withReturns u :=
  List.flatMap_append

theorem withReturns_newline (t : Text) :
    withReturns ('\n' :: t) = '\r' :: '\n' :: withReturns t := rfl

theorem withReturns_cons {c : Char} (noFeed : c ≠ '\n') (t : Text) :
    withReturns (c :: t) = c :: withReturns t := by
  rw [withReturns, List.flatMap_cons, if_neg noFeed]
  rfl

theorem withReturns_of_not_mem {t : Text} (noFeed : '\n' ∉ t) : withReturns t = t := by
  induction t with
  | nil => rfl
  | cons c rest induction =>
      rw [List.mem_cons, not_or] at noFeed
      rw [withReturns_cons (Ne.symm noFeed.1), induction noFeed.2]

theorem withReturns_eq_nil_iff {t : Text} : withReturns t = [] ↔ t = [] := by
  cases t with
  | nil => exact Iff.rfl
  | cons c rest =>
      by_cases feed : c = '\n'
      · subst feed
        simp [withReturns_newline]
      · simp [withReturns_cons feed]

theorem withReturns_flatten (lines : List Text) :
    withReturns lines.flatten = (lines.map withReturns).flatten := by
  induction lines with
  | nil => rfl
  | cons line rest induction =>
      rw [List.flatten_cons, withReturns_append, induction, List.map_cons, List.flatten_cons]

/-- The carriage returns that were added can be taken away again. -/
theorem withFeeds_withReturns {t : Text} (noReturn : '\r' ∉ t) : withFeeds (withReturns t) = t := by
  induction t with
  | nil => rfl
  | cons c rest induction =>
      rw [List.mem_cons, not_or] at noReturn
      by_cases feed : c = '\n'
      · subst feed
        have first : withFeeds ('\r' :: '\n' :: withReturns rest) =
            '\n' :: withFeeds (withReturns rest) := rfl
        rw [withReturns_newline, first, induction noReturn.2]
      · have step := replaceAll_cons_of_ne ['\n'] ['\n'] (withReturns rest) noReturn.1
        rw [withReturns_cons feed, withFeeds, step]
        exact congrArg (c :: ·) (induction noReturn.2)

theorem withFeeds_of_not_mem {t : Text} (noReturn : '\r' ∉ t) : withFeeds t = t :=
  replaceAll_of_not_mem ['\n'] ['\n'] noReturn

/-! ## Trimming -/

section Trimming

variable {p : Char → Bool} (alike : p '\r' = p '\n')

include alike

theorem dropWhile_withReturns (t : Text) :
    (withReturns t).dropWhile p = withReturns (t.dropWhile p) := by
  induction t with
  | nil => rfl
  | cons c rest induction =>
      by_cases feed : c = '\n'
      · subst feed
        cases dropped : p '\n' with
        | true => simp [withReturns_newline, alike, dropped, induction]
        | false => simp [withReturns_newline, alike, dropped]
      · cases dropped : p c with
        | true => simp [withReturns_cons feed, dropped, induction]
        | false => simp [withReturns_cons feed, dropped]

theorem dropEndWhile_withReturns (t : Text) :
    (withReturns t).dropEndWhile p = withReturns (t.dropEndWhile p) := by
  change (withReturns t).rdropWhile p = withReturns (t.rdropWhile p)
  induction t using List.reverseRecOn with
  | nil => rfl
  | append_singleton before c induction =>
      by_cases feed : c = '\n'
      · subst feed
        have ending : withReturns (before ++ ['\n']) = withReturns before ++ ['\r'] ++ ['\n'] := by
          rw [withReturns_append, List.append_assoc]
          rfl
        rw [ending, List.rdropWhile_concat, List.rdropWhile_concat, List.rdropWhile_concat, alike,
          induction]
        split
        · rfl
        · rw [ending]
      · have ending : withReturns (before ++ [c]) = withReturns before ++ [c] := by
          rw [withReturns_append, withReturns_cons feed]
          rfl
        rw [ending, List.rdropWhile_concat, List.rdropWhile_concat, induction]
        split
        · rfl
        · rw [ending]

end Trimming

theorem trimStart_withReturns (t : Text) : (withReturns t).trimStart = withReturns t.trimStart :=
  dropWhile_withReturns (by decide) t

theorem trimEnd_withReturns (t : Text) : (withReturns t).trimEnd = withReturns t.trimEnd :=
  dropEndWhile_withReturns (p := isBlank) (by decide) t

theorem isBlankLine_withReturns (t : Text) : (withReturns t).isBlankLine = t.isBlankLine := by
  rw [Bool.eq_iff_iff, isBlankLine_iff, isBlankLine_iff, ← List.dropWhile_eq_nil_iff,
    ← List.dropWhile_eq_nil_iff, dropWhile_withReturns (by decide), withReturns_eq_nil_iff]

/-! ## Marks within a line -/

/-- A mark that holds no line end. -/
def IsInline (marker : Text) : Prop := '\r' ∉ marker ∧ '\n' ∉ marker

theorem dropPrefix?_withReturns {marker : Text} (inline : IsInline marker) (t : Text) :
    dropPrefix? marker (withReturns t) = (dropPrefix? marker t).map withReturns := by
  change marker.isPrefixOf? (withReturns t) = (marker.isPrefixOf? t).map withReturns
  induction marker generalizing t with
  | nil => rfl
  | cons first more induction =>
      rw [IsInline, List.mem_cons, not_or, List.mem_cons, not_or] at inline
      cases t with
      | nil => rfl
      | cons c rest =>
          by_cases feed : c = '\n'
          · subst feed
            simp [withReturns_newline, List.isPrefixOf?, Ne.symm inline.1.1, Ne.symm inline.2.1]
          · rw [withReturns_cons feed, List.isPrefixOf?, List.isPrefixOf?,
              induction ⟨inline.1.2, inline.2.2⟩]
            split <;> rfl

theorem isPrefix_withReturns_iff {marker t : Text} (inline : IsInline marker) :
    marker <+: withReturns t ↔ marker <+: t := by
  rw [← not_iff_not, ← dropPrefix?_eq_none_iff, ← dropPrefix?_eq_none_iff,
    dropPrefix?_withReturns inline, Option.map_eq_none_iff]

theorem not_isPrefix_cons {marker : Text} {c : Char} (some : marker ≠ []) (absent : c ∉ marker)
    (t : Text) : ¬marker <+: c :: t := by
  rintro ⟨rest, shape⟩
  cases marker with
  | nil => exact some rfl
  | cons first more => exact absent (List.mem_cons.mpr (.inl (List.cons.inj shape).1.symm))

theorem cutAt?_withReturns {marker : Text} (some : marker ≠ []) (inline : IsInline marker)
    (t : Text) :
    cutAt? marker (withReturns t) =
      (cutAt? marker t).map fun cut => (withReturns cut.1, withReturns cut.2) := by
  induction t with
  | nil => simp [withReturns, cutAt?, some]
  | cons c rest induction =>
      by_cases feed : c = '\n'
      · subst feed
        have notAtReturn (u : Text) :=
          dropPrefix?_eq_none_iff.mpr (not_isPrefix_cons some inline.1 u)
        have notAtFeed (u : Text) :=
          dropPrefix?_eq_none_iff.mpr (not_isPrefix_cons some inline.2 u)
        rw [withReturns_newline, cutAt?, notAtReturn, cutAt?, notAtFeed, induction, cutAt?,
          notAtFeed]
        cases cutAt? marker rest <;> rfl
      · have here := dropPrefix?_withReturns inline (c :: rest)
        rw [withReturns_cons feed] at here ⊢
        rw [cutAt?, here, cutAt?, induction]
        cases dropPrefix? marker (c :: rest) with
        | some after => rfl
        | none =>
            cases cutAt? marker rest with
            | none => rfl
            | some cut => simp [withReturns_cons feed]

theorem isInfix_withReturns_iff {marker t : Text} (some : marker ≠ []) (inline : IsInline marker) :
    marker <:+: withReturns t ↔ marker <:+: t := by
  rw [← hasInfix_iff, ← hasInfix_iff, hasInfix, cutAt?_withReturns some inline, Option.isSome_map,
    hasInfix]

/-! ## Lines -/

theorem withReturns_terminated {body : Text} (noFeed : '\n' ∉ body) :
    withReturns (body ++ ['\n']) = body ++ ['\r', '\n'] := by
  rw [withReturns_append, withReturns_of_not_mem noFeed]
  rfl

end Text

open Text

/-- A line as it stands in a file: it holds no line feed but at its end. -/
def IsLine (line : Text) : Prop := IsTerminated line ∨ '\n' ∉ line

namespace WholeLines

variable {lines : List Text}

theorem map_withReturns (whole : WholeLines lines) : WholeLines (lines.map withReturns) := by
  induction whole with
  | nil => exact .nil
  | last some free =>
      rw [List.map_singleton, withReturns_of_not_mem free]
      exact .last some free
  | @cons body rest free whole induction =>
      have line : withReturns (body ++ ['\n']) = (body ++ ['\r']) ++ ['\n'] := by
        rw [withReturns_terminated free, List.append_assoc]
        rfl
      rw [List.map_cons, line]
      exact .cons (by simp [free]) induction

theorem isLine (whole : WholeLines lines) : ∀ line ∈ lines, IsLine line := by
  induction whole with
  | nil => exact List.forall_mem_nil _
  | last some free => exact List.forall_mem_singleton.mpr (.inr free)
  | cons free whole induction =>
      exact List.forall_mem_cons.mpr ⟨.inl ⟨_, free, rfl⟩, induction⟩

end WholeLines

namespace IsLine

variable {line : Text}

theorem of_isSuffix {ending : Text} (isLine : IsLine line) (suffix : ending <:+ line) :
    IsLine ending := by
  rcases isLine with ⟨body, free, rfl⟩ | free
  · rcases List.suffix_concat_iff.mp suffix with rfl | ⟨rest, rfl, within⟩
    · exact .inr List.not_mem_nil
    · exact .inl ⟨rest, fun member => free (within.subset member), rfl⟩
  · exact .inr fun member => free (suffix.subset member)

theorem newline_not_mem_trimEnd (isLine : IsLine line) : '\n' ∉ line.trimEnd := by
  intro member
  rcases isLine with ⟨body, free, rfl⟩ | free
  · rw [trimEnd_append_of_isBlankLine body (by decide)] at member
    exact free ((trimEnd_isPrefix body).subset member)
  · exact free ((trimEnd_isPrefix line).subset member)

theorem lineBody_withReturns (isLine : IsLine line) (noReturn : '\r' ∉ line) :
    lineBody (withReturns line) = lineBody line := by
  rcases isLine with ⟨body, free, rfl⟩ | free
  · have notLast : body.getLast? ≠ some '\r' := fun last =>
      noReturn (List.mem_append_left _ (List.mem_of_getLast? last))
    rw [withReturns_terminated free, lineBody_return_feed, lineBody_append_newline notLast]
  · rw [withReturns_of_not_mem free]

end IsLine

namespace Text

theorem lineRuns_withReturns (t : Text) :
    lineRuns (withReturns t) = (lineRuns t).map withReturns := by
  have whole := (wholeLines_lineRuns t).map_withReturns
  rw [← lineRuns_flatten whole, ← withReturns_flatten, flatten_lineRuns]

theorem lines_withReturns {t : Text} (noReturn : '\r' ∉ t) : (withReturns t).lines = t.lines := by
  rw [lines, lineRuns_withReturns, List.map_map, lines]
  apply List.map_congr_left
  intro run member
  have within : '\r' ∉ run := fun inside =>
    noReturn (flatten_lineRuns t ▸ List.mem_flatten.mpr ⟨run, member, inside⟩)
  exact ((wholeLines_lineRuns t).isLine run member).lineBody_withReturns within

end Text

end StyleCatalog
