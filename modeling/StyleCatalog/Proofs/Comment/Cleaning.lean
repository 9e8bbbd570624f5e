import StyleCatalog.Proofs.Comment.Paragraphs
import StyleCatalog.Proofs.Comment.Parameters

/-! # Comments without their parameters

Cleaning a comment takes its parameters out. No line of the clean comment opens one, and under the
conditions of the runs what was taken out is what the comment was said to hold.
-/

namespace StyleCatalog

open Text

namespace ParameterRun

/-! ## White space around a line -/

theorem cutAt?_colon_append {t gap : Text} (noColon : ':' ∉ gap) :
    cutAt? [':'] (t ++ gap) = (cutAt? [':'] t).map fun cut => (cut.1, cut.2 ++ gap) := by
  induction t with
  | nil =>
      induction gap with
      | nil => rfl
      | cons c rest induction =>
          rw [List.mem_cons, not_or] at noColon
          rw [List.nil_append] at induction ⊢
          rw [cutAt?_colon_cons (Ne.symm noColon.1), induction noColon.2]
          rfl
  | cons c rest induction =>
      by_cases colon : c = ':'
      · subst colon
        rfl
      · rw [List.cons_append, cutAt?_colon_cons colon, induction, cutAt?_colon_cons colon,
          Option.map_map, Option.map_map]
        rfl

theorem naming?_of_not_mem {rest : Text} (noColon : ':' ∉ rest) : naming? rest = none := by
  have nowhere := cutAt?_colon_append noColon (t := [])
  rw [List.nil_append] at nowhere
  rw [naming?, nowhere]
  rfl

theorem naming?_append {rest gap : Text} (noColon : ':' ∉ gap) :
    naming? (rest ++ gap) = (naming? rest).map fun named => (named.1, named.2 ++ gap) := by
  rw [naming?, cutAt?_colon_append noColon, naming?]
  cases cutAt? [':'] rest with
  | none => rfl
  | some cut =>
      simp only [Option.map_some, Option.bind_some]
      split <;> rfl

/-- White space at its end does not make a line open a parameter: the marker may end in it, but no
name follows. -/
theorem opening?_append_eq_none_iff {marker line gap : Text} (blank : gap.isBlankLine = true) :
    opening? marker (line ++ gap) = none ↔ opening? marker line = none := by
  have noColon : ':' ∉ gap := fun member =>
    absurd (isBlankLine_iff.mp blank ':' member) (by decide)
  have blankStart : gap.trimStart = [] := List.dropWhile_eq_nil_iff.mpr (isBlankLine_iff.mp blank)
  have start : (line ++ gap).trimStart =
      if line.trimStart.isEmpty then gap.trimStart else line.trimStart ++ gap :=
    List.dropWhile_append
  rw [opening?_eq_bind, opening?_eq_bind, start]
  split
  · rename_i empty
    rw [blankStart, List.isEmpty_iff.mp empty]
  · generalize line.trimStart = body
    cases here : dropPrefix? marker body with
    | some rest =>
        rw [dropPrefix?_eq_some_iff] at here
        have longer : dropPrefix? marker (body ++ gap) = some (rest ++ gap) := by
          rw [dropPrefix?_eq_some_iff, here, List.append_assoc]
        rw [longer, Option.bind_some, Option.bind_some, naming?_append noColon,
          Option.map_eq_none_iff]
    | none =>
        cases there : dropPrefix? marker (body ++ gap) with
        | none => rfl
        | some rest =>
            rw [dropPrefix?_eq_none_iff] at here
            rw [dropPrefix?_eq_some_iff] at there
            rcases List.append_eq_append_iff.mp there with ⟨more, -, within⟩ | ⟨more, whole, -⟩
            · have absent : ':' ∉ rest := fun member =>
                noColon (within ▸ List.mem_append_right more member)
              simp [naming?_of_not_mem absent]
            · exact absurd ⟨more, whole.symm⟩ here

theorem opening?_cons_of_blank (marker line : Text) {c : Char} (blank : isBlank c = true) :
    opening? marker (c :: line) = opening? marker line := by
  rw [opening?_eq_bind, trimStart_cons_of_blank _ blank, opening?_eq_bind]

/-! ## Texts without opening lines -/

/-- No line of the text, with or without its line end, opens a parameter. -/
def OpensNothing (marker t : Text) : Prop := ∀ run ∈ lineRuns t, opening? marker run = none

namespace OpensNothing

variable {marker t : Text}

theorem of_mem_lines (plain : OpensNothing marker t) :
    ∀ line ∈ t.lines, opening? marker line = none := by
  rw [lines, List.forall_mem_map]
  intro run member
  rcases lineBody_append_blank run with ⟨ending, blank, shape⟩
  rw [← opening?_append_eq_none_iff blank, ← shape]
  exact plain run member

theorem unlines {kept : List Text} (free : ∀ line ∈ kept, '\n' ∉ line)
    (plain : ∀ line ∈ kept, opening? marker line = none) :
    OpensNothing marker (Text.unlines kept) := by
  induction kept with
  | nil => exact List.forall_mem_nil _
  | cons line rest induction =>
      rw [List.forall_mem_cons] at free plain
      cases rest with
      | nil =>
          by_cases empty : line = []
          · subst empty
            exact List.forall_mem_nil _
          · rw [unlines_singleton, OpensNothing, lineRuns_of_not_mem empty free.1,
              List.forall_mem_singleton]
            exact plain.1
      | cons next others =>
          rw [OpensNothing, lineRuns_unlines_cons free.1, List.forall_mem_cons,
            opening?_append_eq_none_iff (by decide)]
          exact ⟨plain.1, induction free.2 plain.2⟩

theorem of_cons {c : Char} (blank : isBlank c = true) (plain : OpensNothing marker (c :: t)) :
    OpensNothing marker t := by
  rw [OpensNothing, lineRuns] at plain
  split at plain
  · exact (List.forall_mem_cons.mp plain).2
  · split at plain
    · rename_i none
      rw [OpensNothing, none]
      exact List.forall_mem_nil _
    · rename_i run runs found
      rw [OpensNothing, found, List.forall_mem_cons]
      rw [List.forall_mem_cons, opening?_cons_of_blank _ _ blank] at plain
      exact plain

theorem trimStart (plain : OpensNothing marker t) : OpensNothing marker t.trimStart := by
  induction t with
  | nil => exact plain
  | cons c rest induction =>
      cases blank : isBlank c with
      | true =>
          rw [trimStart_cons_of_blank _ blank]
          exact induction (plain.of_cons blank)
      | false =>
          rw [trimStart_cons_of_not_blank _ blank]
          exact plain

theorem of_append_of_not_mem {body gap : Text} (some : body ≠ []) (free : '\n' ∉ body)
    (blank : gap.isBlankLine = true) (plain : OpensNothing marker (body ++ gap)) :
    opening? marker body = none := by
  by_cases feed : '\n' ∈ gap
  · rcases List.eq_append_cons_of_mem feed with ⟨before, after, rfl, notBefore⟩
    have freeLine : '\n' ∉ body ++ before := by simp [free, notBefore]
    rw [isBlankLine_append, Bool.and_eq_true] at blank
    rw [OpensNothing, ← List.append_assoc, lineRuns_append_newline freeLine, List.forall_mem_cons,
      opening?_append_eq_none_iff (by decide), opening?_append_eq_none_iff blank.1] at plain
    exact plain.1
  · rw [OpensNothing, lineRuns_of_not_mem (by simp [some]) (by simp [free, feed]),
      List.forall_mem_singleton, opening?_append_eq_none_iff blank] at plain
    exact plain

theorem of_append {gap : Text} (blank : gap.isBlankLine = true)
    (plain : OpensNothing marker (t ++ gap)) : OpensNothing marker t := by
  rw [← flatten_lineRuns t] at plain
  rw [OpensNothing]
  have whole := wholeLines_lineRuns t
  generalize lineRuns t = runs at plain whole ⊢
  induction whole with
  | nil => exact List.forall_mem_nil _
  | last some free =>
      rw [List.flatten_singleton] at plain
      rw [List.forall_mem_singleton]
      exact plain.of_append_of_not_mem some free blank
  | cons free whole induction =>
      rw [OpensNothing, List.flatten_cons, List.append_assoc, List.append_assoc,
        List.singleton_append, lineRuns_append_newline free, List.forall_mem_cons] at plain
      exact List.forall_mem_cons.mpr ⟨plain.1, induction plain.2⟩

theorem trim (plain : OpensNothing marker t) : OpensNothing marker t.trim := by
  rcases trimEnd_append_blank t.trimStart with ⟨gap, blank, shape⟩
  have start := plain.trimStart
  rw [shape] at start
  exact start.of_append blank

end OpensNothing

end ParameterRun

open ParameterRun

theorem mem_kept_iff {marker line t : Text} :
    line ∈ (ofText marker t).filterMap toKept? ↔ .kept line ∈ ofText marker t := by
  rw [List.mem_filterMap]
  constructor
  · rintro ⟨_ | _, inRuns, isKept⟩
    · cases isKept
      exact inRuns
    · cases isKept
  · exact fun inRuns => ⟨_, inRuns, rfl⟩

theorem newline_not_mem_kept (marker t : Text) :
    ∀ line ∈ (ofText marker t).filterMap toKept?, '\n' ∉ line := fun line member =>
  newline_not_mem_lines t line (of_kept_mem_cut (mem_kept_iff.mp member)).1

theorem opensNothing_withoutParameters (marker t : Text) :
    OpensNothing marker (withoutParameters marker t) := by
  apply OpensNothing.unlines (newline_not_mem_kept marker t)
  exact fun line member => (of_kept_mem_cut (mem_kept_iff.mp member)).2

/-- No line of a clean comment opens a parameter. -/
theorem opensNothing_cleanComment (marker comment : Text) :
    OpensNothing marker (cleanComment marker comment) := by
  have kept := opensNothing_withoutParameters marker (normalizeBlanks comment)
  apply OpensNothing.trim
  apply OpensNothing.unlines (newline_not_mem_map_trimEnd _)
  rw [List.forall_mem_map]
  intro line member
  rcases trimEnd_append_blank line with ⟨gap, blank, shape⟩
  rw [← opening?_append_eq_none_iff blank, ← shape]
  exact kept.of_mem_lines line member

/-! ## What is taken out and what is read -/

/-- The parameters that are taken out of the normalized comment are, by name and in order, those
read from the comment as it was written. What is left are the lines that belonged to none of these,
with their tabs expanded, and no line of the clean comment opens a parameter. -/
theorem removed_parameters_eq_read {marker comment : Text} (steady : IsSteady marker)
    (clean : ∀ line ∈ comment.lines, '\r' ∉ line) :
    (parameters marker (normalizeBlanks comment)).map Parameter.name =
        (parameters marker comment).map Parameter.name ∧
      withoutParameters marker (normalizeBlanks comment) =
        unlines (((ofText marker comment).filterMap toKept?).map expandTabs) ∧
      ∀ line ∈ (cleanComment marker comment).lines, opening? marker line = none := by
  have same := steady.ofText_normalizeBlanks clean
  refine ⟨?_, ?_, (opensNothing_cleanComment marker comment).of_mem_lines⟩
  · rw [parameters, parameters, same, List.filterMap_map, List.map_filterMap, List.map_filterMap]
    exact congrArg (List.filterMap · _) (funext name_toParameter?_expand)
  · rw [withoutParameters, same, List.filterMap_map, List.map_filterMap]
    exact congrArg (fun kept => unlines (List.filterMap kept _)) (funext toKept?_expand)

def tabbedComment : Text := "Box\r\n\r\n\tsg-theme:\tdark\r\n\tblue\r\n\r\nStyleguide 1".toList

theorem tabbedComment_loses_what_is_read :
    IsSteady defaultMarker ∧ (∀ line ∈ tabbedComment.lines, '\r' ∉ line) ∧
      (parameters defaultMarker (normalizeBlanks tabbedComment)).map Parameter.name =
        (parameters defaultMarker tabbedComment).map Parameter.name ∧
      (parameters defaultMarker tabbedComment).map Parameter.name = ["theme".toList] := by
  have steady : IsSteady defaultMarker := ⟨by decide, by decide⟩
  have clean : ∀ line ∈ tabbedComment.lines, '\r' ∉ line := by decide
  exact ⟨steady, clean, (removed_parameters_eq_read steady clean).1, by decide⟩

/-- A carriage return that ends no line: what follows it opens a parameter only once the comment is
normalized. -/
def partedComment : Text := "A\rsg-theme: dark\n\nStyleguide 1".toList

/-- A marker that holds a tab is no longer found once the comment is normalized. -/
def tabbedMarker : Text := "sg\t".toList

def keptComment : Text := "A\n\nsg\ttheme: dark\n\nStyleguide 1".toList

theorem removed_parameters_differ_from_read :
    parameters defaultMarker partedComment = [] ∧
      (parameters defaultMarker (normalizeBlanks partedComment)).map Parameter.name =
        ["theme".toList] ∧
      cleanComment defaultMarker partedComment = "A\n\nStyleguide 1".toList ∧
      (parameters tabbedMarker keptComment).map Parameter.name = ["theme".toList] ∧
      parameters tabbedMarker (normalizeBlanks keptComment) = [] ∧
      "sg    theme: dark".toList ∈ (cleanComment tabbedMarker keptComment).lines := by
  decide

end StyleCatalog
