import StyleCatalog.Proofs.Text.Pieces
import StyleCatalog.Proofs.Text.Trimming

/-! # Whole lines

Every text is the concatenation of whole lines, in exactly one way. `lineRuns` finds them, so a
statement about the lines of a text is proved by induction on `WholeLines`.
-/

namespace StyleCatalog

/-- Lines as they stand in a file: each holds one line feed, at its end. The last may lack it. -/
inductive WholeLines : List Text → Prop
  | nil : WholeLines []
  | last {body : Text} (some : body ≠ []) (free : '\n' ∉ body) : WholeLines [body]
  | cons {body : Text} {rest : List Text} (free : '\n' ∉ body) (whole : WholeLines rest) :
      WholeLines ((body ++ ['\n']) :: rest)

/-- A line that ends in its only line feed. -/
def IsTerminated (line : Text) : Prop := ∃ body, '\n' ∉ body ∧ line = body ++ ['\n']

theorem WholeLines.append {lines rest : List Text} (terminated : ∀ line ∈ lines, IsTerminated line)
    (whole : WholeLines rest) : WholeLines (lines ++ rest) := by
  induction lines with
  | nil => exact whole
  | cons line more induction =>
      rcases terminated line List.mem_cons_self with ⟨body, free, rfl⟩
      exact .cons free (induction fun other member =>
        terminated other (List.mem_cons_of_mem _ member))

namespace Text

theorem flatten_lineRuns (t : Text) : (lineRuns t).flatten = t := by
  induction t with
  | nil => rfl
  | cons c rest induction =>
      rw [lineRuns]
      split
      · simp [induction]
      · split
        · rename_i none
          rw [none] at induction
          simp [← induction]
        · rename_i run runs found
          rw [found] at induction
          simp [← induction]

theorem wholeLines_lineRuns (t : Text) : WholeLines (lineRuns t) := by
  induction t with
  | nil => exact .nil
  | cons c rest induction =>
      rw [lineRuns]
      split
      · rename_i feed
        subst feed
        exact .cons List.not_mem_nil induction
      · rename_i notFeed
        have different : '\n' ≠ c := Ne.symm notFeed
        split
        · exact .last (by simp) (by simpa using different)
        · rename_i run runs found
          rw [found] at induction
          cases induction with
          | last some free => exact .last (by simp) (by simp [different, free])
          | cons free whole => exact .cons (List.not_mem_cons_of_ne_of_not_mem different free) whole

theorem lineRuns_append_newline {body : Text} (free : '\n' ∉ body) (t : Text) :
    lineRuns (body ++ '\n' :: t) = (body ++ ['\n']) :: lineRuns t := by
  induction body with
  | nil => simp [lineRuns]
  | cons c rest induction =>
      rw [List.mem_cons, not_or] at free
      rw [List.cons_append, lineRuns, if_neg (Ne.symm free.1), induction free.2]
      rfl

theorem lineRuns_of_not_mem {body : Text} (some : body ≠ []) (free : '\n' ∉ body) :
    lineRuns body = [body] := by
  induction body with
  | nil => exact absurd rfl some
  | cons c rest induction =>
      rw [List.mem_cons, not_or] at free
      rw [lineRuns, if_neg (Ne.symm free.1)]
      cases rest with
      | nil => rfl
      | cons d more => rw [induction (by simp) free.2]

theorem unlines_singleton (line : Text) : unlines [line] = line := List.intercalate_singleton

theorem unlines_cons_cons (line next : Text) (others : List Text) :
    unlines (line :: next :: others) = line ++ '\n' :: unlines (next :: others) := by
  rw [unlines, List.intercalate_cons_cons, List.append_assoc]
  rfl

theorem lineRuns_unlines_cons {line : Text} (free : '\n' ∉ line) (next : Text)
    (others : List Text) :
    lineRuns (unlines (line :: next :: others)) =
      (line ++ ['\n']) :: lineRuns (unlines (next :: others)) := by
  rw [unlines_cons_cons, lineRuns_append_newline free]

/-- Whole lines come back from the text they make up. -/
theorem lineRuns_flatten {lines : List Text} (whole : WholeLines lines) :
    lineRuns lines.flatten = lines := by
  induction whole with
  | nil => rfl
  | last some free => simpa using lineRuns_of_not_mem some free
  | cons free whole induction =>
      rw [List.flatten_cons, List.append_assoc, List.singleton_append,
        lineRuns_append_newline free, induction]

theorem isInfix_of_mem_splitAtChar {separator : Char} {t piece : Text}
    (member : piece ∈ splitAtChar separator t) : piece <:+: t := by
  rw [← intercalate_splitAtChar separator t]
  generalize splitAtChar separator t = pieces at member
  induction pieces with
  | nil => cases member
  | cons first rest induction =>
      cases rest with
      | nil =>
          rw [List.mem_singleton.mp member]
          simp
      | cons second others =>
          rw [List.intercalate_cons_cons, List.append_assoc]
          rcases List.mem_cons.mp member with rfl | later
          · exact (List.prefix_append piece _).isInfix
          · exact ((induction later).trans (List.suffix_append _ _).isInfix).trans
              (List.suffix_append _ _).isInfix

/-! ## Lines without their ends -/

theorem lineBody_append_newline {body : Text} (noReturn : body.getLast? ≠ some '\r') :
    lineBody (body ++ ['\n']) = body := by
  rw [lineBody, List.reverse_append, List.reverse_singleton, List.singleton_append]
  split
  · rename_i rest shape
    rw [List.cons.injEq] at shape
    rw [← List.head?_reverse, shape.2] at noReturn
    exact absurd rfl noReturn
  · rename_i rest _ shape
    rw [List.cons.injEq] at shape
    rw [← shape.2, List.reverse_reverse]
  · rename_i other
    exact absurd rfl (other _)

theorem getLast?_ne_return {body : Text} (trimmed : body.trimEnd = body) :
    body.getLast? ≠ some '\r' := by
  intro last
  exact absurd (trimEnd_eq_self_iff.mp trimmed '\r' last) (by decide)

end Text

end StyleCatalog
