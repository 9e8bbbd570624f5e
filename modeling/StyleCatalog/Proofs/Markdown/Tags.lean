import Mathlib.Data.List.TakeWhile
import Mathlib.Tactic.SplitIfs
import StyleCatalog.Markdown.InlineReader
import StyleCatalog.Proofs.Text.Markers

/-! # The ends of tags

What is recognised as HTML ends where a closing angle bracket stands. So a piece of HTML that is
written as it stands ends with one: `markup?_getLast?`.
-/

namespace StyleCatalog.Markdown

variable {t rest : Text}

theorem isSuffix_of_cons_isSuffix {c : Char} (ends : c :: rest <:+ t) : rest <:+ t :=
  (List.suffix_cons c rest).trans ends

/-! ## Tags -/

theorem afterTagName?_isSuffix (found : afterTagName? t = some rest) : rest <:+ t := by
  cases t with
  | nil => cases found
  | cons c more =>
      rw [afterTagName?] at found
      split_ifs at found
      cases found
      exact (List.dropWhile_suffix _).trans (List.suffix_cons c more)

theorem afterAttributeValue?_isSuffix (found : afterAttributeValue? t = some rest) :
    rest <:+ t := by
  cases t with
  | nil => cases found
  | cons c more =>
      rw [afterAttributeValue?] at found
      split_ifs at found
      · split at found
        · rename_i quote after shape
          cases found
          have closed : quote :: rest <:+ more := shape ▸ List.dropWhile_suffix _
          exact (isSuffix_of_cons_isSuffix closed).trans (List.suffix_cons c more)
        · cases found
      · cases found
        exact (List.dropWhile_suffix _).trans (List.suffix_cons c more)

theorem afterAttribute?_isSuffix (found : afterAttribute? t = some rest) : rest <:+ t := by
  cases t with
  | nil => cases found
  | cons c more =>
      rw [afterAttribute?] at found
      split_ifs at found
      have named : more.dropWhile isAttributeChar <:+ c :: more :=
        (List.dropWhile_suffix _).trans (List.suffix_cons c more)
      dsimp only at found
      split at found
      · rename_i value shape
        have behind : '=' :: value <:+ more.dropWhile isAttributeChar :=
          shape ▸ List.dropWhile_suffix _
        exact (afterAttributeValue?_isSuffix found).trans <| (List.dropWhile_suffix _).trans <|
          (isSuffix_of_cons_isSuffix behind).trans named
      · cases found
        exact named

theorem afterTagEnd?_isSuffix (found : afterTagEnd? t = some rest) : '>' :: rest <:+ t := by
  rw [afterTagEnd?] at found
  have gap : t.dropWhile isGap <:+ t := List.dropWhile_suffix _
  split at found
  · rename_i shape
    cases found
    exact shape ▸ gap
  · rename_i shape
    cases found
    exact isSuffix_of_cons_isSuffix (shape ▸ gap)
  · cases found

theorem afterAttributes?_isSuffix {steps : Nat} (found : afterAttributes? steps t = some rest) :
    '>' :: rest <:+ t := by
  induction steps generalizing t with
  | zero => cases found
  | succ steps induction =>
      rw [afterAttributes?.eq_def] at found
      dsimp only at found
      split at found
      · rename_i ended
        cases found
        exact afterTagEnd?_isSuffix ended
      · split at found
        · cases found
        · split_ifs at found
          rcases Option.bind_eq_some_iff.mp found with ⟨next, here, later⟩
          exact (induction later).trans <|
            (afterAttribute?_isSuffix here).trans (List.dropWhile_suffix _)

theorem afterOpenTag?_isSuffix (found : afterOpenTag? t = some rest) : '>' :: rest <:+ t := by
  rcases Option.bind_eq_some_iff.mp found with ⟨named, here, later⟩
  exact (afterAttributes?_isSuffix later).trans (afterTagName?_isSuffix here)

theorem afterCloseTag?_isSuffix (found : afterCloseTag? t = some rest) : '>' :: rest <:+ t := by
  rw [afterCloseTag?.eq_def] at found
  split at found
  · rename_i inside
    cases named : afterTagName? inside with
    | none =>
        rw [named] at found
        cases found
    | some afterName =>
        rw [named] at found
        dsimp only at found
        split at found
        · rename_i shape
          cases found
          have closed : '>' :: rest <:+ afterName := shape ▸ List.dropWhile_suffix _
          exact closed.trans ((afterTagName?_isSuffix named).trans (List.suffix_cons _ _))
        · cases found
  · cases found

theorem afterTag?_isSuffix (found : afterTag? t = some rest) : '>' :: rest <:+ t := by
  rw [afterTag?] at found
  cases opened : afterOpenTag? t with
  | none =>
      rw [opened] at found
      exact afterCloseTag?_isSuffix found
  | some more =>
      rw [opened] at found
      cases found
      exact afterOpenTag?_isSuffix opened

/-! ## Comments and declarations -/

theorem afterMarker?_isSuffix (marker : Text)
    (found : afterMarker? (marker ++ ['>']) t = some rest) : '>' :: rest <:+ t := by
  rcases Option.map_eq_some_iff.mp found with ⟨⟨before, after⟩, cut, rfl⟩
  rw [Text.eq_append_of_cutAt? cut, List.append_assoc, ← List.append_assoc before]
  exact List.suffix_append _ _

theorem afterCharacterData?_isSuffix (found : afterCharacterData? t = some rest) :
    '>' :: rest <:+ t := by
  rw [afterCharacterData?] at found
  have brackets : t.dropWhile (· ≠ ']') <:+ t := List.dropWhile_suffix _
  split at found
  · cases found
  · split at found
    · rename_i shape
      cases found
      have closed : '>' :: rest <:+ t.dropWhile (· ≠ ']') := shape ▸ List.dropWhile_suffix _
      exact closed.trans brackets
    · cases found

theorem afterDeclaration?_isSuffix (found : afterDeclaration? t = some rest) :
    '>' :: rest <:+ t := by
  rw [afterDeclaration?.eq_def] at found
  split at found
  · cases found
    exact ⟨"!--".toList, rfl⟩
  · cases found
    exact ⟨"!---".toList, rfl⟩
  · exact (afterMarker?_isSuffix "--".toList found).trans ⟨"!--".toList, rfl⟩
  · exact (afterMarker?_isSuffix "?".toList found).trans ⟨"?".toList, rfl⟩
  · exact (afterCharacterData?_isSuffix found).trans ⟨"![CDATA[".toList, rfl⟩
  · rename_i c more _ _ _ _
    split_ifs at found
    exact (afterMarker?_isSuffix [] found).trans ⟨['!', c], rfl⟩
  · cases found

/-! ## Pieces of HTML -/

theorem written_append_bracket (source : Source) (t : Text) :
    source.written (t ++ ['>']) = source.written t ++ ['>'] := by
  rw [Source.written, Source.written]
  split_ifs
  · rw [List.flatMap_append]
    rfl
  · rfl

/-- What stands before the rest of a text ends with a bracket if the rest follows one. -/
theorem exists_take_of_isSuffix {more : Text} (ends : '>' :: more <:+ t) :
    ∃ inner, t.take (t.length - more.length) = inner ++ ['>'] := by
  rcases ends with ⟨inner, rfl⟩
  refine ⟨inner, ?_⟩
  rw [List.append_cons, List.length_append, Nat.add_sub_cancel, List.take_left]

theorem markup?_getLast? {source : Source} {html more : Text}
    (found : markup? source t = some (html, more)) : html.getLast? = some '>' := by
  have bracket {inside following : Text} (ends : '>' :: following <:+ inside) :
      (source.written ('<' :: inside.take (inside.length - following.length))).getLast? =
        some '>' := by
    rcases exists_take_of_isSuffix ends with ⟨inner, shape⟩
    rw [shape, ← List.cons_append, written_append_bracket, List.getLast?_concat]
  rw [markup?] at found
  split at found
  · rename_i tagged
    cases found
    exact bracket (afterTag?_isSuffix tagged)
  · rcases Option.map_eq_some_iff.mp found with ⟨following, declared, shape⟩
    cases shape
    exact bracket (afterDeclaration?_isSuffix declared)

end StyleCatalog.Markdown
