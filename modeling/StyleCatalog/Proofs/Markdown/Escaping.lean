import StyleCatalog.Markdown.Escape

/-! # Escaped text

Escaping replaces `&`, `<` and `>` by character references. No angle bracket is left, an ampersand
only begins one of the three references, and one pass that reads the references back restores the
text, whatever references it already held: `escapes_escapeBody`.
-/

namespace StyleCatalog.Markdown

/-- The text that escaped text stands for. One pass from left to right reads each of the three
references as the character it was written for. -/
def unescapeBody : Text → Text
  | '&' :: 'a' :: 'm' :: 'p' :: ';' :: rest => '&' :: unescapeBody rest
  | '&' :: 'l' :: 't' :: ';' :: rest => '<' :: unescapeBody rest
  | '&' :: 'g' :: 't' :: ';' :: rest => '>' :: unescapeBody rest
  | c :: rest => c :: unescapeBody rest
  | [] => []

/-- A reference to one of the three escaped characters begins with an ampersand before the text. -/
def NamesEscaped (rest : Text) : Prop :=
  "amp;".toList <+: rest ∨ "lt;".toList <+: rest ∨ "gt;".toList <+: rest

/-- The HTML shows the text as it is. -/
structure Escapes (html t : Text) : Prop where
  opens_nothing : '<' ∉ html
  closes_nothing : '>' ∉ html
  names_escaped : ∀ rest, '&' :: rest <:+ html → NamesEscaped rest
  reads_back : unescapeBody html = t

/-! ## One character -/

theorem escapeBodyChar_cases (c : Char) :
    (c = '&' ∧ escapeBodyChar c = "&amp;".toList) ∨ (c = '<' ∧ escapeBodyChar c = "&lt;".toList) ∨
      (c = '>' ∧ escapeBodyChar c = "&gt;".toList) ∨
      ((c ≠ '&' ∧ c ≠ '<' ∧ c ≠ '>') ∧ escapeBodyChar c = [c]) := by
  rw [escapeBodyChar]
  by_cases ampersand : c = '&'
  · exact .inl ⟨ampersand, if_pos ampersand⟩
  by_cases opening : c = '<'
  · exact .inr (.inl ⟨opening, by rw [if_neg ampersand, if_pos opening]⟩)
  by_cases closing : c = '>'
  · exact .inr (.inr (.inl ⟨closing, by rw [if_neg ampersand, if_neg opening, if_pos closing]⟩))
  · refine .inr (.inr (.inr ⟨⟨ampersand, opening, closing⟩, ?_⟩))
    rw [if_neg ampersand, if_neg opening, if_neg closing]

theorem unescapeBody_cons {c : Char} (plain : c ≠ '&') (rest : Text) :
    unescapeBody (c :: rest) = c :: unescapeBody rest := by
  rw [unescapeBody] <;> intros <;> simp_all

theorem not_mem_escapeBodyChar {c d : Char} (bracket : d = '<' ∨ d = '>') :
    d ∉ escapeBodyChar c := by
  rcases escapeBodyChar_cases c with
    ⟨-, shape⟩ | ⟨-, shape⟩ | ⟨-, shape⟩ | ⟨⟨-, notOpening, notClosing⟩, shape⟩ <;> rw [shape]
  · rcases bracket with rfl | rfl <;> decide
  · rcases bracket with rfl | rfl <;> decide
  · rcases bracket with rfl | rfl <;> decide
  · rw [List.mem_singleton]
    rintro rfl
    exact bracket.elim notOpening notClosing

/-! ## A text -/

theorem escapeBody_cons (c : Char) (t : Text) :
    escapeBody (c :: t) = escapeBodyChar c ++ escapeBody t := List.flatMap_cons

theorem not_mem_escapeBody {d : Char} (bracket : d = '<' ∨ d = '>') (t : Text) :
    d ∉ escapeBody t := by
  rw [escapeBody, List.mem_flatMap]
  rintro ⟨c, -, inside⟩
  exact not_mem_escapeBodyChar bracket inside

theorem unescapeBody_escapeBody (t : Text) : unescapeBody (escapeBody t) = t := by
  induction t with
  | nil => rfl
  | cons c rest induction =>
      rw [escapeBody_cons]
      rcases escapeBodyChar_cases c with
        ⟨rfl, shape⟩ | ⟨rfl, shape⟩ | ⟨rfl, shape⟩ | ⟨⟨plain, -, -⟩, shape⟩
      · rw [shape]
        exact congrArg ('&' :: ·) induction
      · rw [shape]
        exact congrArg ('<' :: ·) induction
      · rw [shape]
        exact congrArg ('>' :: ·) induction
      · rw [shape, List.singleton_append, unescapeBody_cons plain, induction]

/-- A suffix that begins with a character stands behind all that lacks the character. -/
theorem isSuffix_of_isSuffix_append {c : Char} {free : Text} (absent : c ∉ free) {t rest : Text}
    (begins : c :: rest <:+ free ++ t) : c :: rest <:+ t := by
  induction free with
  | nil => exact begins
  | cons d others induction =>
      rw [List.mem_cons, not_or] at absent
      rw [List.cons_append, List.suffix_cons_iff, List.cons.injEq] at begins
      exact induction absent.2 (begins.resolve_left fun here => absent.1 here.1)

/-- An ampersand in a reference before more text is the one that begins it, or stands further on. -/
theorem eq_or_isSuffix_of_reference {name : Text} (free : '&' ∉ name) {t rest : Text}
    (begins : '&' :: rest <:+ '&' :: (name ++ t)) : rest = name ++ t ∨ '&' :: rest <:+ t := by
  rw [List.suffix_cons_iff, List.cons.injEq] at begins
  exact begins.imp And.right (isSuffix_of_isSuffix_append free)

theorem namesEscaped_of_isSuffix {t rest : Text} (begins : '&' :: rest <:+ escapeBody t) :
    NamesEscaped rest := by
  induction t with
  | nil => exact absurd (List.suffix_nil.mp begins) (List.cons_ne_nil _ _)
  | cons c more induction =>
      rw [escapeBody_cons] at begins
      rcases escapeBodyChar_cases c with
        ⟨-, shape⟩ | ⟨-, shape⟩ | ⟨-, shape⟩ | ⟨⟨plain, -, -⟩, shape⟩ <;>
        rw [shape] at begins
      · have free : '&' ∉ "amp;".toList := by decide
        rcases eq_or_isSuffix_of_reference free begins with here | later
        · exact .inl ⟨_, here.symm⟩
        · exact induction later
      · have free : '&' ∉ "lt;".toList := by decide
        rcases eq_or_isSuffix_of_reference free begins with here | later
        · exact .inr (.inl ⟨_, here.symm⟩)
        · exact induction later
      · have free : '&' ∉ "gt;".toList := by decide
        rcases eq_or_isSuffix_of_reference free begins with here | later
        · exact .inr (.inr ⟨_, here.symm⟩)
        · exact induction later
      · have free : '&' ∉ [c] := by simpa using plain.symm
        exact induction (isSuffix_of_isSuffix_append free begins)

/-- Escaping loses nothing and leaves no markup. -/
theorem escapes_escapeBody (t : Text) : Escapes (escapeBody t) t where
  opens_nothing := not_mem_escapeBody (.inl rfl) t
  closes_nothing := not_mem_escapeBody (.inr rfl) t
  names_escaped _ := namesEscaped_of_isSuffix
  reads_back := unescapeBody_escapeBody t

end StyleCatalog.Markdown
