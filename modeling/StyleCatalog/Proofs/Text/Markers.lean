import Mathlib.Data.List.Infix
import StyleCatalog.Text.Basic

/-! # Markers in a text

The searches for a marker are the list library's relations: `startsWith` is `<+:` and `hasInfix` is
`<:+:`. For the mark that ends a comment, `cutAt?` finds the first one.
-/

namespace StyleCatalog.Text

theorem startsWith_iff {marker t : Text} : startsWith marker t = true ↔ marker <+: t :=
  List.isPrefixOf_iff_prefix

theorem dropPrefix?_eq_some_iff {marker t rest : Text} :
    dropPrefix? marker t = some rest ↔ t = marker ++ rest := by
  rw [dropPrefix?, List.isPrefixOf?_eq_some_iff_append_eq, eq_comm]

theorem dropPrefix?_eq_none_iff {marker t : Text} :
    dropPrefix? marker t = none ↔ ¬marker <+: t := by
  rw [Option.eq_none_iff_forall_ne_some]
  simp only [ne_eq, dropPrefix?_eq_some_iff]
  constructor
  · rintro absent ⟨rest, rfl⟩
    exact absent rest rfl
  · rintro absent rest rfl
    exact absent (List.prefix_append marker rest)

theorem hasInfix_iff {marker t : Text} : hasInfix marker t = true ↔ marker <:+: t := by
  induction t with
  | nil => cases marker <;> simp [hasInfix, cutAt?]
  | cons c rest induction =>
      rw [List.infix_cons_iff, ← induction, hasInfix, cutAt?]
      cases found : dropPrefix? marker (c :: rest) with
      | none => simp [dropPrefix?_eq_none_iff.mp found, hasInfix]
      | some after =>
          have here : marker <+: c :: rest := ⟨after, (dropPrefix?_eq_some_iff.mp found).symm⟩
          simp [here]

theorem eq_append_of_cutAt? {marker t before after : Text}
    (found : cutAt? marker t = some (before, after)) : t = before ++ (marker ++ after) := by
  induction t generalizing before with
  | nil =>
      rw [cutAt?] at found
      split at found
      · rename_i empty
        cases found
        rw [List.isEmpty_iff.mp empty]
        rfl
      · cases found
  | cons c rest induction =>
      rw [cutAt?] at found
      split at found
      · rename_i follows here
        cases found
        rw [dropPrefix?_eq_some_iff.mp here, List.nil_append]
      · rcases Option.map_eq_some_iff.mp found with ⟨cut, later, parts⟩
        cases parts
        exact congrArg (c :: ·) (induction later)

/-! ## The mark that ends a comment -/

theorem closer_isPrefix_iff {t : Text} : "*/".toList <+: t ↔ ∃ rest, t = '*' :: '/' :: rest := by
  constructor
  · rintro ⟨rest, rfl⟩
    exact ⟨rest, rfl⟩
  · rintro ⟨rest, rfl⟩
    exact ⟨rest, rfl⟩

/-- No closer arises between two texts unless its star ends the first and its slash starts the
second. -/
theorem not_closer_isInfix_append_of_boundary {t u : Text} (first : ¬"*/".toList <:+: t)
    (second : ¬"*/".toList <:+: u) (boundary : t.getLast? = some '*' → u.head? ≠ some '/') :
    ¬"*/".toList <:+: t ++ u := by
  rw [List.infix_append_iff]
  rintro (inFirst | inSecond | ⟨left, right, split, leftEnd, rightStart⟩)
  · exact first inFirst
  · exact second inSecond
  · -- The closer has two characters, so it lies across in one way only.
    rcases left with _ | ⟨star, _ | ⟨slash, left⟩⟩
    · rw [List.nil_append] at split
      exact second (split ▸ rightStart.isInfix)
    · rcases leftEnd with ⟨before, rfl⟩
      rcases rightStart with ⟨rest, rfl⟩
      obtain ⟨rfl, rfl⟩ : '*' = star ∧ ['/'] = right := by simpa using split
      exact boundary (by simp) rfl
    · obtain ⟨rfl, rfl, rfl, rfl⟩ : '*' = star ∧ '/' = slash ∧ left = [] ∧ right = [] := by
        simpa using split
      exact first leftEnd.isInfix

theorem not_closer_isInfix_append {t u : Text} (first : ¬"*/".toList <:+: t)
    (second : ¬"*/".toList <:+: u) (boundary : u.head? ≠ some '/') :
    ¬"*/".toList <:+: t ++ u :=
  not_closer_isInfix_append_of_boundary first second fun _ => boundary

theorem not_closer_isInfix_cons {c : Char} {t : Text} (noStar : c ≠ '*')
    (free : ¬"*/".toList <:+: t) : ¬"*/".toList <:+: c :: t := by
  rw [List.infix_cons_iff, closer_isPrefix_iff]
  rintro (⟨rest, starts⟩ | later)
  · exact noStar (List.cons.inj starts).1
  · exact free later

/-- The first closer is the one that follows a text without closers. -/
theorem cutAt?_closer {body : Text} (free : ¬"*/".toList <:+: body) (rest : Text) :
    cutAt? "*/".toList (body ++ '*' :: '/' :: rest) = some (body, rest) := by
  induction body with
  | nil => rfl
  | cons c more induction =>
      rw [List.infix_cons_iff, not_or] at free
      have notHere : ¬"*/".toList <+: c :: (more ++ '*' :: '/' :: rest) := by
        rw [closer_isPrefix_iff]
        rintro ⟨tail, shape⟩
        cases more with
        | nil => simp at shape
        | cons d others =>
            simp only [List.cons_append, List.cons.injEq] at shape
            exact free.1 (closer_isPrefix_iff.mpr ⟨others, by rw [shape.1, shape.2.1]⟩)
      rw [List.cons_append, cutAt?, dropPrefix?_eq_none_iff.mpr notHere, induction free.2]
      rfl

end StyleCatalog.Text
