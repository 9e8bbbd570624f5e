import Mathlib.Data.List.Infix
import StyleCatalog.Markdown.Html
import StyleCatalog.Proofs.Markdown.Escaping

/-! # Tags in written inline content

Inline content is written with tags of its own and with the HTML that stands in it as it is. The tag
that opens a paragraph is none of the former, so it occurs in what is written only if it occurs in
such HTML: `shows_inlinesHtml`.
-/

namespace StyleCatalog.Markdown

/-! ## HTML in content -/

mutual

/-- The pieces of HTML that are written as they stand in inline content. What an image holds is
written as plain text. -/
def rawHtml : Inline → List Text
  | .html t => [t]
  | .emphasis content => rawsHtml content
  | .strong content => rawsHtml content
  | .strikethrough content => rawsHtml content
  | .link _ _ content => rawsHtml content
  | .text _ => []
  | .code _ => []
  | .softBreak => []
  | .hardBreak => []
  | .image _ _ _ => []

/-- The pieces of HTML in neighbouring inline content. -/
def rawsHtml : List Inline → List Text
  | [] => []
  | first :: rest => rawHtml first ++ rawsHtml rest

end

theorem rawsHtml_eq_flatMap (content : List Inline) :
    rawsHtml content = content.flatMap rawHtml := by
  induction content with
  | nil => rfl
  | cons first rest induction => rw [rawsHtml, List.flatMap_cons, induction]

/-- All HTML in content ends a tag, a comment or a declaration. -/
def RawEnds (content : Inline) : Prop := ∀ raw ∈ rawHtml content, raw.getLast? = some '>'

theorem forall_rawsHtml_iff {content : List Inline} :
    (∀ raw ∈ rawsHtml content, raw.getLast? = some '>') ↔ ∀ inner ∈ content, RawEnds inner := by
  rw [rawsHtml_eq_flatMap]
  simp only [List.mem_flatMap, forall_exists_index, and_imp, RawEnds]
  exact ⟨fun ends inner member raw inside => ends raw inner member inside,
    fun ends raw inner member inside => ends inner member raw inside⟩

/-! ## Closed texts -/

/-- Whether every opening angle bracket has a closing one behind it. -/
def isClosed : Text → Bool
  | [] => true
  | c :: rest => (c ≠ '<' || rest.contains '>') && isClosed rest

theorem isClosed_of_not_mem {t : Text} (absent : '<' ∉ t) : isClosed t = true := by
  induction t with
  | nil => rfl
  | cons c rest induction =>
      rw [List.mem_cons, not_or] at absent
      simp [isClosed, Ne.symm absent.1, induction absent.2]

theorem isClosed_of_getLast? {t : Text} (last : t.getLast? = some '>') : isClosed t = true := by
  induction t with
  | nil => rfl
  | cons c rest induction =>
      cases rest with
      | nil =>
          rw [List.getLast?_singleton, Option.some.injEq] at last
          rw [last]
          rfl
      | cons d more =>
          rw [List.getLast?_cons_cons] at last
          have member : '>' ∈ d :: more := List.mem_of_getLast? last
          rw [isClosed, induction last, List.contains_iff_mem.mpr member, Bool.or_true]
          rfl

theorem isClosed_append {t u : Text} (first : isClosed t = true) (second : isClosed u = true) :
    isClosed (t ++ u) = true := by
  induction t with
  | nil => exact second
  | cons c rest induction =>
      rw [isClosed, Bool.and_eq_true] at first
      rw [List.cons_append, isClosed, induction first.2, Bool.and_true]
      simp only [Bool.or_eq_true, List.contains_iff_mem, List.mem_append] at first ⊢
      exact first.1.imp_right Or.inl

theorem paragraphTag_isPrefix_iff {t : Text} :
    "<p>".toList <+: t ↔ ∃ rest, t = '<' :: 'p' :: '>' :: rest := by
  constructor
  · rintro ⟨rest, rfl⟩
    exact ⟨rest, rfl⟩
  · rintro ⟨rest, rfl⟩
    exact ⟨rest, rfl⟩

theorem paragraphTag_isPrefix_append_iff {c : Char} {rest : Text} (closed : c ≠ '<' ∨ '>' ∈ rest)
    (u : Text) : "<p>".toList <+: c :: (rest ++ u) ↔ "<p>".toList <+: c :: rest := by
  rw [paragraphTag_isPrefix_iff, paragraphTag_isPrefix_iff]
  constructor
  · rintro ⟨tail, shape⟩
    rcases List.cons.inj shape with ⟨opens, shape⟩
    have member := closed.resolve_left (not_not_intro opens)
    -- The closing bracket that is known of is the one of the tag, or stands behind it.
    match rest, shape, member with
    | [d], shape, member =>
        rw [← List.mem_singleton.mp member] at shape
        cases shape
    | d :: e :: more, shape, _ =>
        simp only [List.cons_append, List.cons.injEq] at shape
        exact ⟨more, by rw [opens, shape.1, shape.2.1]⟩
  · rintro ⟨tail, shape⟩
    exact ⟨tail ++ u, by rw [← List.cons_append, shape]; rfl⟩

/-- The tag does not lie across the end of a closed text. -/
theorem paragraphTag_isInfix_append_iff {t : Text} (closed : isClosed t = true) (u : Text) :
    "<p>".toList <:+: t ++ u ↔ "<p>".toList <:+: t ∨ "<p>".toList <:+: u := by
  induction t with
  | nil => simp
  | cons c rest induction =>
      simp only [isClosed, Bool.and_eq_true, Bool.or_eq_true, decide_eq_true_eq,
        List.contains_iff_mem] at closed
      rw [List.cons_append, List.infix_cons_iff, List.infix_cons_iff, induction closed.2, or_assoc,
        paragraphTag_isPrefix_append_iff closed.1]

/-- The tag does not lie across the beginning of another one. -/
theorem paragraphTag_isInfix_append_cons_iff (t u : Text) :
    "<p>".toList <:+: t ++ '<' :: u ↔ "<p>".toList <:+: t ∨ "<p>".toList <:+: '<' :: u := by
  refine ⟨fun inside => ?_, fun part => ?_⟩
  · rcases List.infix_append_iff.mp inside with here | there | ⟨left, right, split, ends, starts⟩
    · exact .inl here
    · exact .inr there
    · match left, right, split with
      | [], right, split => exact .inr (split ▸ starts.isInfix)
      | [_], [_, _], rfl => exact absurd (List.cons_prefix_cons.mp starts).1 (by decide)
      | [_, _], [_], rfl => exact absurd (List.cons_prefix_cons.mp starts).1 (by decide)
      | [_, _, _], [], rfl => exact .inl ends.isInfix
  · rcases part with here | there
    · exact here.trans (List.prefix_append _ _).isInfix
    · exact there.trans (List.suffix_append _ _).isInfix

/-! ## What is shown of raw HTML -/

/-- A closed text that holds the tag of a paragraph only where it shows HTML that holds it. -/
structure Shows (html : Text) (raws : List Text) : Prop where
  closed : isClosed html = true
  paragraphTag : "<p>".toList <:+: html ↔ ∃ raw ∈ raws, "<p>".toList <:+: raw

namespace Shows

theorem append {html other : Text} {raws others : List Text} (first : Shows html raws)
    (second : Shows other others) : Shows (html ++ other) (raws ++ others) where
  closed := isClosed_append first.closed second.closed
  paragraphTag := by
    rw [paragraphTag_isInfix_append_iff first.closed, first.paragraphTag, second.paragraphTag]
    simp only [List.mem_append, or_and_right, exists_or]

theorem plain {t : Text} (absent : '<' ∉ t) : Shows t [] where
  closed := isClosed_of_not_mem absent
  paragraphTag := by
    simp only [List.not_mem_nil, false_and, exists_false, iff_false]
    exact fun inside => absent (inside.subset List.mem_cons_self)

theorem tag {t : Text} {c : Char} {body : Text} (shape : t = '<' :: c :: body) (other : c ≠ 'p')
    (absent : '<' ∉ c :: body) (ends : t.getLast? = some '>') : Shows t [] where
  closed := isClosed_of_getLast? ends
  paragraphTag := by
    simp only [List.not_mem_nil, false_and, exists_false, iff_false, shape]
    intro inside
    rcases List.infix_cons_iff.mp inside with opens | later
    · rcases paragraphTag_isPrefix_iff.mp opens with ⟨rest, same⟩
      exact other (List.cons.inj (List.cons.inj same).2).1
    · exact absent (later.subset List.mem_cons_self)

theorem raw {t : Text} (ends : t.getLast? = some '>') : Shows t [t] where
  closed := isClosed_of_getLast? ends
  paragraphTag := by simp

theorem within {before html after : Text} {raws : List Text} (opening : Shows before [])
    (inner : Shows html raws) (closing : Shows after []) :
    Shows (before ++ html ++ after) raws := by
  have whole := (opening.append inner).append closing
  rwa [List.nil_append, List.append_nil] at whole

end Shows

/-! ## Attributes -/

theorem not_mem_escapeAttribute (t : Text) : '<' ∉ escapeAttribute t := by
  rw [escapeAttribute, List.mem_flatMap]
  rintro ⟨c, -, inside⟩
  rw [escapeAttributeChar] at inside
  split_ifs at inside
  · exact absurd inside (by decide)
  · exact absurd inside (by decide)
  · exact not_mem_escapeBodyChar (.inl rfl) inside

theorem not_mem_percentByte {byte : Nat} (small : byte < 256) : '<' ∉ percentByte byte := by
  have digits : ∀ n < 16, '<' ≠ if n < 10 then Char.ofNat ('0'.toNat + n)
      else Char.ofNat ('A'.toNat + (n - 10)) := by decide
  intro inside
  rcases List.mem_cons.mp inside with mark | inside
  · cases mark
  · rcases List.mem_cons.mp inside with high | inside
    · exact digits (byte / 16) (by omega) high
    · exact digits (byte % 16) (by omega) (List.mem_singleton.mp inside)

theorem not_mem_escapeAddress (t : Text) : '<' ∉ escapeAddress t := by
  rw [escapeAddress, List.mem_flatMap]
  rintro ⟨c, -, inside⟩
  rw [escapeAddressChar] at inside
  split_ifs at inside with safe
  · rw [← List.mem_singleton.mp inside] at safe
    cases safe
  · exact absurd inside (by decide)
  · exact absurd inside (by decide)
  · rcases List.mem_flatMap.mp inside with ⟨byte, -, inside⟩
    exact not_mem_percentByte byte.toNat_lt inside

theorem not_mem_titleAttribute (title : Text) : '<' ∉ titleAttribute title := by
  rw [titleAttribute]
  split_ifs
  · exact List.not_mem_nil
  · have free := not_mem_escapeAttribute title
    simp [free]

mutual

theorem not_mem_plainText : ∀ content : Inline, '<' ∉ plainText content
  | .text t => not_mem_escapeAttribute t
  | .code t => not_mem_escapeAttribute t
  | .html t => not_mem_escapeAttribute t
  | .softBreak => by decide
  | .hardBreak => by decide
  | .emphasis content => not_mem_plainTexts content
  | .strong content => not_mem_plainTexts content
  | .strikethrough content => not_mem_plainTexts content
  | .link _ _ content => not_mem_plainTexts content
  | .image _ _ content => not_mem_plainTexts content

theorem not_mem_plainTexts : ∀ content : List Inline, '<' ∉ plainTexts content
  | [] => List.not_mem_nil
  | first :: rest => by
    rw [plainTexts, List.mem_append, not_or]
    exact ⟨not_mem_plainText first, not_mem_plainTexts rest⟩

end

/-! ## Inline content -/

theorem shows_linkTag (destination title : Text) :
    Shows ("<a href=\"".toList ++ escapeAddress destination ++ ['"'] ++
      titleAttribute title ++ ['>']) [] := by
  have absent : '<' ∉ "a href=\"".toList ++ escapeAddress destination ++ ['"'] ++
      titleAttribute title ++ ['>'] := by
    simp only [List.mem_append, not_or]
    exact ⟨⟨⟨⟨by decide, not_mem_escapeAddress _⟩, by decide⟩, not_mem_titleAttribute _⟩, by decide⟩
  exact .tag rfl (by decide) absent List.getLast?_concat

theorem shows_imageTag (destination title : Text) (content : List Inline) :
    Shows ("<img src=\"".toList ++ escapeAddress destination ++ "\" alt=\"".toList ++
      plainTexts content ++ ['"'] ++ titleAttribute title ++ " />".toList) [] := by
  have absent : '<' ∉ "img src=\"".toList ++ escapeAddress destination ++ "\" alt=\"".toList ++
      plainTexts content ++ ['"'] ++ titleAttribute title ++ " />".toList := by
    simp only [List.mem_append, not_or]
    exact ⟨⟨⟨⟨⟨⟨by decide, not_mem_escapeAddress _⟩, by decide⟩, not_mem_plainTexts _⟩, by decide⟩,
      not_mem_titleAttribute _⟩, by decide⟩
  exact .tag rfl (by decide) absent (List.getLast?_append_of_ne_nil _ (by decide))

theorem shows_break : Shows "<br />\n".toList [] := by
  have tag : Shows "<br />".toList [] := .tag rfl (by decide) (by decide) rfl
  exact tag.append (.plain (t := ['\n']) (by decide))

theorem shows_closingTag (name : Text) (absent : '<' ∉ name) :
    Shows ("</".toList ++ name ++ ['>']) [] := by
  refine .tag rfl (by decide) ?_ List.getLast?_concat
  change '<' ∉ '/' :: (name ++ ['>'])
  simp [absent]

/-- Content between the tags of an element that is no paragraph. -/
theorem Shows.element (c : Char) (more : Text) (other : c ≠ 'p') (absent : '<' ∉ c :: more)
    {html : Text} {raws : List Text} (inner : Shows html raws) :
    Shows ('<' :: c :: more ++ ['>'] ++ html ++ ("</".toList ++ c :: more ++ ['>'])) raws := by
  have opening : Shows ('<' :: c :: more ++ ['>']) [] := by
    refine .tag rfl other ?_ List.getLast?_concat
    rw [List.mem_cons, not_or] at absent
    simp [absent]
  exact .within opening inner (shows_closingTag _ absent)

mutual

theorem shows_inlineHtml : ∀ content : Inline, RawEnds content →
    Shows (inlineHtml content) (rawHtml content)
  | .text t, _ => .plain (not_mem_escapeBody (.inl rfl) t)
  | .code t, _ =>
    .element 'c' "ode".toList (by decide) (by decide) (.plain (not_mem_escapeBody (.inl rfl) t))
  | .html t, ends => .raw (ends t List.mem_cons_self)
  | .softBreak, _ => .plain (by decide)
  | .hardBreak, _ => shows_break
  | .emphasis content, ends =>
    .element 'e' "m".toList (by decide) (by decide) (shows_inlinesHtml content ends)
  | .strong content, ends =>
    .element 's' "trong".toList (by decide) (by decide) (shows_inlinesHtml content ends)
  | .strikethrough content, ends =>
    .element 'd' "el".toList (by decide) (by decide) (shows_inlinesHtml content ends)
  | .link destination title content, ends =>
    .within (shows_linkTag destination title) (shows_inlinesHtml content ends)
      (shows_closingTag ['a'] (by decide))
  | .image destination title content, _ => shows_imageTag destination title content

theorem shows_inlinesHtml : ∀ content : List Inline,
    (∀ raw ∈ rawsHtml content, raw.getLast? = some '>') →
      Shows (inlinesHtml content) (rawsHtml content)
  | [], _ => .plain List.not_mem_nil
  | first :: rest, ends => by
    rw [rawsHtml, List.forall_mem_append] at ends
    exact (shows_inlineHtml first ends.1).append (shows_inlinesHtml rest ends.2)

end

end StyleCatalog.Markdown
