import StyleCatalog.Proofs.Comment.RoundTrip

/-! # Joined comments

A reference leaves no paragraph behind for a later one to close. So a comment that ends in a
reference and any other comment below it are read each on its own, `ofComment_joined`, and the
first fault in the order of the text counts.
-/

namespace StyleCatalog.Entry

/-- The paragraphs that wait for the next reference, after all of the given ones. -/
def leftOpen (pending : List Paragraph) : List Paragraph → List Paragraph
  | [] => pending
  | paragraph :: rest =>
    if (closing? paragraph).isSome then leftOpen [] rest
    else leftOpen (pending ++ [paragraph]) rest

variable {paragraph : Paragraph}

theorem leftOpen_cons_of_closing (closes : (closing? paragraph).isSome) (pending : List Paragraph)
    (rest : List Paragraph) : leftOpen pending (paragraph :: rest) = leftOpen [] rest := by
  rw [leftOpen, if_pos closes]

theorem leftOpen_cons_of_unclosed (unclosed : closing? paragraph = none)
    (pending rest : List Paragraph) :
    leftOpen pending (paragraph :: rest) = leftOpen (pending ++ [paragraph]) rest := by
  rw [leftOpen, unclosed]
  rfl

/-- Nothing waits after a reference. -/
theorem leftOpen_of_getLast? {paragraphs : List Paragraph}
    (isLast : paragraphs.getLast? = some paragraph) (closes : (closing? paragraph).isSome)
    (pending : List Paragraph) : leftOpen pending paragraphs = [] := by
  induction paragraphs generalizing pending with
  | nil => cases isLast
  | cons first rest induction =>
      cases rest with
      | nil =>
          cases isLast
          exact leftOpen_cons_of_closing closes pending []
      | cons second others =>
          rw [List.getLast?_cons_cons] at isLast
          rw [leftOpen]
          split
          · exact induction isLast []
          · exact induction isLast (pending ++ [first])

/-! ## Reading on -/

/-- The entries of one reading and then those of a later one. The first fault counts. -/
def thenRead (first later : Except CommentError (List Entry)) : Except CommentError (List Entry) :=
  do
    let entries ← first
    let others ← later
    return entries ++ others

theorem thenRead_error (fault : CommentError) (later : Except CommentError (List Entry)) :
    thenRead (.error fault) later = .error fault := rfl

theorem thenRead_nil (later : Except CommentError (List Entry)) :
    thenRead (.ok []) later = later := by
  cases later <;> rfl

theorem thenRead_ok_nil (first : Except CommentError (List Entry)) :
    thenRead first (.ok []) = first := by
  cases first with
  | error fault => rfl
  | ok entries => exact congrArg Except.ok (List.append_nil entries)

theorem map_cons_thenRead (entry : Entry) (first later : Except CommentError (List Entry)) :
    (thenRead first later).map (entry :: ·) = thenRead (first.map (entry :: ·)) later := by
  cases first with
  | error fault => rfl
  | ok entries => cases later <;> rfl

/-- More paragraphs are read with what the first ones have left open. -/
theorem ofParagraphs_append_eq_thenRead (pending first later : List Paragraph) :
    ofParagraphs pending (first ++ later) =
      thenRead (ofParagraphs pending first) (ofParagraphs (leftOpen pending first) later) := by
  induction first generalizing pending with
  | nil => exact (thenRead_nil _).symm
  | cons paragraph rest induction =>
      rw [List.cons_append, ofParagraphs, ofParagraphs]
      cases found : closing? paragraph with
      | none =>
          rw [leftOpen_cons_of_unclosed found]
          exact induction (pending ++ [paragraph])
      | some reference =>
          have closes : (closing? paragraph).isSome := by rw [found, Option.isSome_some]
          rw [leftOpen_cons_of_closing closes]
          change (if _ then _ else _) = thenRead (if _ then _ else _) _
          split
          · exact (thenRead_error _ _).symm
          · cases ofBody reference pending with
            | error fault => exact (thenRead_error fault _).symm
            | ok entry =>
                change (ofParagraphs [] (rest ++ later)).map _ = _
                rw [induction, map_cons_thenRead]

theorem ofParagraphs_of_unclosed {paragraphs : List Paragraph}
    (unclosed : ∀ paragraph ∈ paragraphs, closing? paragraph = none) (pending : List Paragraph) :
    ofParagraphs pending paragraphs = .ok [] := by
  rw [← List.append_nil paragraphs, ofParagraphs_append unclosed]
  rfl

/-! ## Joined comments -/

/-- A comment whose last paragraph names a reference, if only an empty one. -/
def EndsInReference (comment : Text) : Prop :=
  ∃ last, (Paragraph.ofText comment).getLast? = some last ∧ (closing? last).isSome

/-- Comments are read each on its own: a blank line below a reference parts the entries above from
those below, faults included. What no reference closes changes nothing. -/
theorem ofComment_joined (comment other : Text) :
    (EndsInReference comment →
      ofComment (comment ++ "\n\n".toList ++ other) =
        thenRead (ofComment comment) (ofComment other)) ∧
    ((∀ paragraph ∈ Paragraph.ofText other, closing? paragraph = none) →
      ofComment (comment ++ "\n\n".toList ++ other) = ofComment comment) := by
  have joined : ofComment (comment ++ "\n\n".toList ++ other) =
      thenRead (ofComment comment)
        (ofParagraphs (leftOpen [] (Paragraph.ofText comment)) (Paragraph.ofText other)) := by
    rw [ofComment, Paragraph.ofText_append, ofParagraphs_append_eq_thenRead, ofComment]
  constructor
  · intro ends
    rcases ends with ⟨last, isLast, closes⟩
    rw [joined, leftOpen_of_getLast? isLast closes, ofComment, ofComment]
  · intro unclosed
    rw [joined, ofParagraphs_of_unclosed unclosed, thenRead_ok_nil]

/-- A carriage return stands where this comment is joined to the next. -/
def buttonComment : Text := "Button\n\nStyleguide 1.\r".toList

theorem buttonComment_joined :
    EndsInReference buttonComment ∧
      ofComment (buttonComment ++ "\n\n".toList ++ "Link\n\nStyleguide 2\n\nNote".toList) =
        .ok [{ header := "Button".toList, reference := ['1'] },
          { header := "Link".toList, reference := ['2'] }] ∧
      ofComment (buttonComment ++ "\n\n".toList ++ "Weight: x\n\nStyleguide".toList) =
        .error .missingReference := by
  have ends : EndsInReference buttonComment := ⟨["Styleguide 1.".toList], rfl, rfl⟩
  exact ⟨ends, ((ofComment_joined _ _).1 ends).trans rfl, ((ofComment_joined _ _).1 ends).trans rfl⟩

end StyleCatalog.Entry
