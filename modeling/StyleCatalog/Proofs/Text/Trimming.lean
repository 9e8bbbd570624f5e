import Mathlib.Data.List.DropRight
import Mathlib.Data.List.TakeWhile
import StyleCatalog.Text.Basic

/-! # Trimming

What trimming leaves alone and what it takes away, said by the characters at the two ends of a
text.
-/

namespace StyleCatalog

/-- Nothing is dropped from a list whose first item stays. -/
theorem dropWhile_eq_self_iff_head? {α : Type} {p : α → Bool} {items : List α} :
    items.dropWhile p = items ↔ ∀ item ∈ items.head?, p item = false := by
  cases items with
  | nil => simp
  | cons first rest => simp [List.dropWhile_eq_self_iff]

/-- Nothing is dropped from the end of a list whose last item stays. -/
theorem rdropWhile_eq_self_iff_getLast? {α : Type} {p : α → Bool} {items : List α} :
    items.rdropWhile p = items ↔ ∀ item ∈ items.getLast?, p item = false := by
  rw [List.rdropWhile_eq_self_iff]
  constructor
  · intro stays item last
    rcases List.getLast?_eq_some_iff.mp last with ⟨before, rfl⟩
    simpa using stays (by simp)
  · intro stays nonempty
    simpa using stays _ (List.getLast?_eq_getLast_of_ne_nil nonempty)

namespace Text

theorem isBlankLine_iff {t : Text} : t.isBlankLine = true ↔ ∀ c ∈ t, isBlank c = true :=
  List.all_eq_true

theorem isBlankLine_append (t u : Text) :
    (t ++ u).isBlankLine = (t.isBlankLine && u.isBlankLine) :=
  List.all_append

theorem isBlankLine_append_of_blank {t u : Text} (first : t.isBlankLine = true)
    (second : u.isBlankLine = true) : (t ++ u).isBlankLine = true := by
  rw [isBlankLine_append, first, second]
  rfl

theorem not_mem_of_isBlankLine {c : Char} (solid : isBlank c = false) {gap : Text}
    (blank : gap.isBlankLine = true) : c ∉ gap := by
  intro member
  rw [isBlankLine_iff.mp blank c member] at solid
  cases solid

/-! ## Leading white space -/

theorem trimStart_cons_of_not_blank {c : Char} (t : Text) (solid : isBlank c = false) :
    trimStart (c :: t) = c :: t := by
  rw [trimStart, List.dropWhile_cons_of_neg (by simp [solid])]

theorem trimStart_cons_of_blank {c : Char} (t : Text) (blank : isBlank c = true) :
    trimStart (c :: t) = trimStart t := by
  rw [trimStart, List.dropWhile_cons_of_pos blank, trimStart]

theorem trimStart_eq_self_iff {t : Text} :
    t.trimStart = t ↔ ∀ c ∈ t.head?, isBlank c = false :=
  dropWhile_eq_self_iff_head?

theorem trimStart_append_of_solid {t : Text} (solid : t.isBlankLine = false) (u : Text) :
    (t ++ u).trimStart = t.trimStart ++ u := by
  have some : ¬(t.dropWhile isBlank).isEmpty := by
    rw [List.isEmpty_iff, List.dropWhile_eq_nil_iff, ← isBlankLine_iff, solid]
    exact Bool.false_ne_true
  rw [trimStart, List.dropWhile_append, if_neg some]
  rfl

theorem trimStart_append_of_isBlankLine {t : Text} (blank : t.isBlankLine = true) (u : Text) :
    (t ++ u).trimStart = u.trimStart :=
  List.dropWhile_append_of_pos (isBlankLine_iff.mp blank)

theorem trimStart_isSuffix (t : Text) : t.trimStart <:+ t := List.dropWhile_suffix isBlank

theorem trimStart_of_isBlankLine {t : Text} (blank : t.isBlankLine = true) : t.trimStart = [] :=
  List.dropWhile_eq_nil_iff.mpr (isBlankLine_iff.mp blank)

theorem takeWhile_append_trimStart (t : Text) : t.takeWhile isBlank ++ t.trimStart = t :=
  List.takeWhile_append_dropWhile

theorem isBlankLine_takeWhile (t : Text) : isBlankLine (t.takeWhile isBlank) = true :=
  List.all_takeWhile

theorem trimStart_trimStart (t : Text) : t.trimStart.trimStart = t.trimStart :=
  List.dropWhile_idempotent isBlank t

/-! ## Trailing white space -/

theorem trimEnd_eq_self_iff {t : Text} :
    t.trimEnd = t ↔ ∀ c ∈ t.getLast?, isBlank c = false :=
  rdropWhile_eq_self_iff_getLast?

theorem trimEnd_isPrefix (t : Text) : t.trimEnd <+: t := List.rdropWhile_prefix isBlank t

theorem trimEnd_trimEnd (t : Text) : t.trimEnd.trimEnd = t.trimEnd :=
  List.rdropWhile_idempotent isBlank t

theorem trimEnd_append_blank (t : Text) :
    ∃ gap : Text, gap.isBlankLine = true ∧ t = t.trimEnd ++ gap :=
  ⟨t.rtakeWhile isBlank, isBlankLine_iff.mpr fun _ => List.mem_rtakeWhile_imp,
    (List.rdropWhile_append_rtakeWhile).symm⟩

theorem isBlankLine_trimEnd (t : Text) : t.trimEnd.isBlankLine = t.isBlankLine := by
  rcases trimEnd_append_blank t with ⟨gap, blank, shape⟩
  conv => rhs; rw [shape]
  rw [isBlankLine_append, blank, Bool.and_true]

theorem trimEnd_append_of_isBlankLine (t : Text) {u : Text} (blank : u.isBlankLine = true) :
    (t ++ u).trimEnd = t.trimEnd := by
  rw [trimEnd, List.reverse_append, List.dropWhile_append_of_pos, trimEnd]
  intro c member
  exact isBlankLine_iff.mp blank c (List.mem_reverse.mp member)

theorem trimEnd_of_isBlankLine {t : Text} (blank : t.isBlankLine = true) : t.trimEnd = [] :=
  List.rdropWhile_eq_nil_iff.mpr (isBlankLine_iff.mp blank)

/-- A text without trailing white space is blank only if it is empty. -/
theorem eq_nil_of_isBlankLine {t : Text} (trimmed : t.trimEnd = t) (blank : t.isBlankLine = true) :
    t = [] := by
  rw [← trimmed, trimEnd_of_isBlankLine blank]

theorem trimEnd_append_of_solid (t : Text) {u : Text} (solid : u.isBlankLine = false) :
    (t ++ u).trimEnd = t ++ u.trimEnd := by
  have reversed : Text.isBlankLine u.reverse = false := by
    rw [isBlankLine, List.all_reverse]
    exact solid
  have trimmed := trimStart_append_of_solid reversed t.reverse
  rw [trimEnd, List.reverse_append]
  change (trimStart (u.reverse ++ t.reverse)).reverse = _
  rw [trimmed, List.reverse_append, List.reverse_reverse]
  rfl

theorem trimEnd_append_of_ne_nil (t : Text) {u : Text} (nonempty : u ≠ [])
    (trimmed : u.trimEnd = u) : (t ++ u).trimEnd = t ++ u := by
  rw [trimEnd_eq_self_iff] at trimmed ⊢
  rwa [List.getLast?_append_of_ne_nil t nonempty]

theorem trim_eq_self_iff {t : Text} : t.trim = t ↔ t.trimStart = t ∧ t.trimEnd = t := by
  constructor
  · intro trimmed
    -- Both trims only shorten, so a text that survives the two survives each.
    have shorter : t.length ≤ t.trimStart.length := by
      calc
        t.length = t.trim.length := by rw [trimmed]
        _ ≤ t.trimStart.length := (trimEnd_isPrefix _).length_le
    have start : t.trimStart = t :=
      (trimStart_isSuffix t).eq_of_length_le shorter
    refine ⟨start, ?_⟩
    rwa [trim, start] at trimmed
  · rintro ⟨start, finish⟩
    rw [trim, start, finish]

theorem trim_of_forall_not_blank {t : Text} (solid : ∀ c ∈ t, isBlank c = false) : t.trim = t := by
  rw [trim_eq_self_iff, trimStart_eq_self_iff, trimEnd_eq_self_iff]
  constructor
  · intro c first
    exact solid c (List.mem_of_head? first)
  · intro c last
    exact solid c (List.mem_of_getLast? last)

/-- What a text begins with begins like the text. -/
theorem trimStart_eq_self_of_isPrefix {t u : Text} (begins : u <+: t) (start : t.trimStart = t) :
    u.trimStart = u := by
  rcases begins with ⟨rest, rfl⟩
  rw [trimStart_eq_self_iff] at start ⊢
  intro c first
  apply start c
  rw [List.head?_append]
  exact Option.or_eq_some_iff.mpr (.inl first)

theorem trim_trim (t : Text) : t.trim.trim = t.trim := by
  rw [trim_eq_self_iff]
  constructor
  · exact trimStart_eq_self_of_isPrefix (trimEnd_isPrefix _) (trimStart_trimStart t)
  · exact trimEnd_trimEnd t.trimStart

theorem trim_append_of_isBlankLine (t : Text) {u : Text} (blank : u.isBlankLine = true) :
    (t ++ u).trim = t.trim := by
  cases empty : t.isBlankLine with
  | true =>
      have both := isBlankLine_append_of_blank empty blank
      rw [trim, trimStart_of_isBlankLine both, trim, trimStart_of_isBlankLine empty]
  | false =>
      rw [trim, trimStart_append_of_solid empty, trimEnd_append_of_isBlankLine _ blank, trim]

/-- Trimming does not reach beyond a character that is no white space. -/
theorem exists_trim_cons {c : Char} (solid : isBlank c = false) (rest : Text) :
    ∃ more, trim (c :: rest) = c :: more := by
  rw [trim, trimStart_cons_of_not_blank rest solid]
  rcases trimEnd_append_blank (c :: rest) with ⟨gap, blank, shape⟩
  cases trimmed : trimEnd (c :: rest) with
  | nil =>
      rw [trimmed, List.nil_append] at shape
      exact absurd (shape ▸ List.mem_cons_self) (not_mem_of_isBlankLine solid blank)
  | cons first more =>
      rw [trimmed, List.cons_append] at shape
      exact ⟨more, by rw [(List.cons.inj shape).1]⟩

end Text

end StyleCatalog
