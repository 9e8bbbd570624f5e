import StyleCatalog.Proofs.Markdown.InlineReading
import StyleCatalog.Proofs.Markdown.Pages
import StyleCatalog.Proofs.Text.Trimming
import StyleCatalog.Renderer

/-! # Paragraphs without their tags

Rendering a part of a line leaves out the tags of a paragraph that is the whole document. Whether it
is one is told from the HTML, so HTML that stands in the text as it is can mislead the rendering:
`markdown_unwraps`.
-/

namespace StyleCatalog

open Markdown

namespace Renderer

theorem markdown_false (t : Text) :
    markdown t false = Text.trim (documentHtml (readDocument t)) := by
  rw [markdown, if_neg Bool.false_ne_true]

theorem markdown_true (t : Text) : markdown t true = withoutParagraph (markdown t false) := by
  rw [markdown_false, markdown, if_pos rfl]

/-! ## Fragments that look like one paragraph -/

/-- A fragment starts and ends like a paragraph, and no other starts in it. -/
structure Wrapped (html inner : Text) : Prop where
  shape : html = "<p>".toList ++ (inner ++ "</p>".toList)
  single : ¬"<p>".toList <:+: inner

theorem withoutParagraph_of_wrapped {html inner : Text} (wrapped : Wrapped html inner) :
    withoutParagraph html = inner := by
  have ends : Text.dropPrefix? "</p>".toList.reverse (inner ++ "</p>".toList).reverse =
      some inner.reverse := by
    rw [Text.dropPrefix?_eq_some_iff, List.reverse_append]
  have single : Text.hasInfix "<p>".toList inner = false := by
    rw [← Bool.not_eq_true, Text.hasInfix_iff]
    exact wrapped.single
  rw [withoutParagraph, Text.dropPrefix?_eq_some_iff.mpr wrapped.shape]
  dsimp only
  rw [ends]
  dsimp only
  rw [List.reverse_reverse, single]
  rfl

theorem exists_wrapped {html : Text} (unwrapped : withoutParagraph html ≠ html) :
    ∃ inner, Wrapped html inner := by
  rw [withoutParagraph] at unwrapped
  split at unwrapped
  · exact absurd rfl unwrapped
  · rename_i rest begins
    split at unwrapped
    · exact absurd rfl unwrapped
    · rename_i reversed ends
      split at unwrapped
      · exact absurd rfl unwrapped
      · rename_i single
        rw [Text.hasInfix_iff] at single
        refine ⟨reversed.reverse, ?_, single⟩
        rw [Text.dropPrefix?_eq_some_iff] at begins ends
        rw [begins, List.reverse_eq_iff.mp ends, List.reverse_append, List.reverse_reverse]

theorem Wrapped.ne {html inner : Text} (wrapped : Wrapped html inner) : inner ≠ html := by
  intro same
  have length := congrArg List.length wrapped.shape
  simp only [← same, List.length_append] at length
  have some : "<p>".toList.length = 3 := rfl
  omega

/-- No paragraph starts at the end of the fragment or in the white space behind it. -/
theorem Wrapped.not_paragraphTag_isInfix {html inner gap : Text} (wrapped : Wrapped html inner)
    (blank : gap.isBlankLine = true) : ¬"<p>".toList <:+: inner ++ ("</p>".toList ++ gap) := by
  have noGap : '<' ∉ gap := Text.not_mem_of_isBlankLine (by decide) blank
  have closing : "</p>".toList ++ gap = '<' :: '/' :: 'p' :: '>' :: gap := rfl
  rw [closing, paragraphTag_isInfix_append_cons_iff, List.infix_cons_iff, paragraphTag_isPrefix_iff]
  rintro (inside | ⟨rest, shape⟩ | later)
  · exact wrapped.single inside
  · cases shape
  · have absent : '<' ∉ '/' :: 'p' :: '>' :: gap := by simp [noGap]
    exact absent (later.subset List.mem_cons_self)

/-! ## Documents -/

/-- The documents that are rendered without the tags of a paragraph. `html` is the whole of the
rendered document. -/
inductive Unwraps (blocks : List Markdown.Block) (html : Text) : Prop
  /-- The document is one paragraph, and no HTML in it holds the tag of a paragraph. -/
  | paragraph {content : List Inline} (alone : blocks = [.paragraph content])
      (single : ∀ raw ∈ rawsHtml content, ¬"<p>".toList <:+: raw)
  /-- The document has a block of HTML and looks like one paragraph. -/
  | html {contents inner : Text} (listed : .html contents ∈ blocks) (wrapped : Wrapped html inner)

/-! ### One paragraph -/

theorem documentHtml_paragraph (content : List Inline) :
    documentHtml [.paragraph content] =
      "<p>".toList ++ (inlinesHtml content ++ "</p>".toList) ++ ['\n'] := by
  have shape : documentHtml [.paragraph content] =
      (((Page.put {} "<p>".toList).put (inlinesHtml content)).put "</p>\n".toList).text := rfl
  rw [shape, Page.text_put, Page.text_put, Page.text_put, List.append_assoc, List.append_assoc]
  exact congrArg ("<p>".toList ++ ·) (List.append_assoc _ "</p>".toList ['\n']).symm

theorem trim_documentHtml_paragraph (content : List Inline) :
    Text.trim (documentHtml [.paragraph content]) =
      "<p>".toList ++ (inlinesHtml content ++ "</p>".toList) := by
  have last : ("<p>".toList ++ (inlinesHtml content ++ "</p>".toList)).getLast? = some '>' := by
    rw [← List.append_assoc, List.getLast?_append_of_ne_nil _ (by decide)]
    rfl
  rw [documentHtml_paragraph, Text.trim]
  change Text.trimEnd (Text.trimStart ('<' :: _)) = _
  rw [Text.trimStart_cons_of_not_blank _ (by decide)]
  change Text.trimEnd ("<p>".toList ++ (inlinesHtml content ++ "</p>".toList) ++ ['\n']) = _
  rw [Text.trimEnd_append_of_isBlankLine _ (by decide), Text.trimEnd_eq_self_iff, last]
  exact fun c same => Option.some.inj same ▸ by decide

/-! ### More than one block -/

/-- Only white space is trimmed behind a text that starts with a tag. -/
theorem exists_gap (rest : Text) :
    ∃ gap : Text, gap.isBlankLine = true ∧ '<' :: rest = Text.trim ('<' :: rest) ++ gap := by
  rw [Text.trim, Text.trimStart_cons_of_not_blank rest (by decide)]
  exact Text.trimEnd_append_blank _

theorem exists_more (first : Markdown.Block) (rest : List Markdown.Block) :
    ∃ more, documentHtml (first :: rest) = (putBlock false {} first).text ++ more := by
  rcases isPrefix_putBlocks false (putBlock false {} first) rest with ⟨more, shape⟩
  exact ⟨more, shape.symm⟩

/-- A document that starts like a paragraph starts with a paragraph or HTML. -/
theorem exists_paragraph_of_begins {first : Markdown.Block} {rest : List Markdown.Block} {t : Text}
    (noHtml : ∀ contents, first ≠ .html contents)
    (begins : Text.trim (documentHtml (first :: rest)) = "<p>".toList ++ t) :
    ∃ content, first = .paragraph content := by
  by_contra noParagraph
  rw [not_exists] at noParagraph
  rcases exists_more first rest with ⟨more, shape⟩
  rcases goesOnWithElement_putBlock {} noParagraph noHtml with ⟨gap, html, noGap, written, element⟩
  rcases element.opens with ⟨c, d, inside, rfl, other⟩
  rw [List.prefix_nil.mp noGap] at written
  have document : documentHtml (first :: rest) = '<' :: (c :: d :: inside ++ more) := by
    rw [shape, written]
    rfl
  rcases exists_gap (c :: d :: inside ++ more) with ⟨behind, -, whole⟩
  rw [← document, begins, document] at whole
  have tag : "<p>".toList ++ t ++ behind = '<' :: 'p' :: '>' :: (t ++ behind) := rfl
  rw [tag, List.cons_append, List.cons_append, List.cons.injEq, List.cons.injEq,
    List.cons.injEq] at whole
  exact other ⟨whole.2.1, whole.2.2.1⟩

/-- The tag of a second paragraph lies within what looks like one paragraph. -/
theorem not_wrapped_of_second {start more inner : Text} :
    ¬Wrapped (Text.trim ("<p>".toList ++ (start ++ ("<p>".toList ++ more)))) inner := by
  intro wrapped
  have tag : "<p>".toList ++ (start ++ ("<p>".toList ++ more)) =
      '<' :: 'p' :: '>' :: (start ++ ("<p>".toList ++ more)) := rfl
  rcases exists_gap ('p' :: '>' :: (start ++ ("<p>".toList ++ more))) with
    ⟨behind, blank, whole⟩
  rw [← tag, wrapped.shape, List.append_assoc, List.append_right_inj, List.append_assoc] at whole
  apply wrapped.not_paragraphTag_isInfix blank
  rw [← whole]
  exact ⟨start, more, List.append_assoc _ _ _⟩

/-- An element at the end closes with a tag of its own. -/
theorem not_wrapped_of_closesElement {rest inner : Text} (closes : ClosesElement ('<' :: rest)) :
    ¬Wrapped (Text.trim ('<' :: rest)) inner := by
  intro wrapped
  rcases closes with ⟨before, c, shape, other⟩
  have trimmed : Text.trim ('<' :: rest) = before ++ [c, '>'] := by
    have feed : before ++ [c, '>', '\n'] = before ++ [c, '>'] ++ ['\n'] := by simp
    have solid : Text.trimEnd [c, '>'] = [c, '>'] :=
      Text.trimEnd_eq_self_iff.mpr fun d last => by
        have same : '>' = d := Option.some.inj last
        exact same ▸ by decide
    rw [Text.trim, Text.trimStart_cons_of_not_blank _ (by decide), shape, feed,
      Text.trimEnd_append_of_isBlankLine _ (by decide),
      Text.trimEnd_append_of_ne_nil _ (by simp) solid]
  have closing : "<p>".toList ++ (inner ++ "</p>".toList) =
      "<p>".toList ++ inner ++ "</".toList ++ ['p', '>'] := by
    rw [List.append_assoc, List.append_assoc]
    rfl
  rw [trimmed] at wrapped
  have tails := List.append_inj_right' (wrapped.shape.trans closing) rfl
  exact other (List.cons.inj tails).1

/-- A document of several blocks does not look like one paragraph if a paragraph is first and no
HTML last. -/
theorem not_wrapped_of_last {content : List Inline} (between : List Markdown.Block)
    {last : Markdown.Block} (noHtml : ∀ contents, last ≠ .html contents) (inner : Text) :
    ¬Wrapped (Text.trim (documentHtml (.paragraph content :: (between ++ [last])))) inner := by
  generalize pageEq : putBlocks false (putBlock false {} (.paragraph content)) between = page
  have document : documentHtml (.paragraph content :: (between ++ [last])) =
      (putBlock false page last).text := by
    rw [documentHtml, putBlocks, putBlocks_append, pageEq]
    rfl
  have begins : ∃ start, page.text = "<p>".toList ++ start := by
    rcases isPrefix_putBlocks false (putBlock false {} (.paragraph content)) between with
      ⟨more, shape⟩
    have first := documentHtml_paragraph content
    rw [documentHtml, putBlocks, putBlocks] at first
    rw [pageEq, first, List.append_assoc, List.append_assoc] at shape
    exact ⟨_, shape.symm⟩
  rcases begins with ⟨start, begins⟩
  rw [document]
  by_cases paragraph : ∃ content, last = .paragraph content
  · rcases paragraph with ⟨other, rfl⟩
    have written : (putBlock false page (.paragraph other)).text =
        page.text ++ page.gap ++ "<p>".toList ++ inlinesHtml other ++ "</p>\n".toList := by
      change (((page.freshLine.put _).put _).put _).text = _
      rw [Page.text_put, Page.text_put, Page.text_put, Page.text_freshLine]
    rw [written, begins]
    simp only [List.append_assoc]
    rw [← List.append_assoc start]
    exact not_wrapped_of_second
  · rw [not_exists] at paragraph
    rcases goesOnWithElement_putBlock page paragraph noHtml with ⟨gap, html, -, written, element⟩
    rw [written, begins]
    exact not_wrapped_of_closesElement ((element.closes.append gap).append ("<p>".toList ++ start))

theorem unwraps_of_wrapped {blocks : List Markdown.Block} {inner : Text}
    (ends : ∀ content, .paragraph content ∈ blocks → ∀ inner ∈ content, RawEnds inner)
    (wrapped : Wrapped (Text.trim (documentHtml blocks)) inner) :
    Unwraps blocks (Text.trim (documentHtml blocks)) := by
  by_cases listed : ∃ contents, .html contents ∈ blocks
  · rcases listed with ⟨contents, listed⟩
    exact .html listed wrapped
  rw [not_exists] at listed
  cases blocks with
  | nil => cases wrapped.shape
  | cons first rest =>
      have noHtml (contents : Text) : first ≠ .html contents := fun same =>
        listed contents (same ▸ List.mem_cons_self)
      rcases exists_paragraph_of_begins noHtml wrapped.shape with ⟨content, rfl⟩
      rcases List.eq_nil_or_concat' rest with rfl | ⟨between, last, rfl⟩
      · have same : inner = inlinesHtml content := by
          have shape := wrapped.shape
          rw [trim_documentHtml_paragraph, List.append_right_inj, List.append_left_inj] at shape
          exact shape.symm
        have rawEnds := forall_rawsHtml_iff.mpr (ends content List.mem_cons_self)
        refine .paragraph rfl fun raw member tag => wrapped.single ?_
        rw [same]
        exact (shows_inlinesHtml content rawEnds).paragraphTag.mpr ⟨raw, member, tag⟩
      · have inRest : last ∈ between ++ [last] := List.mem_append_right _ List.mem_cons_self
        have noHtmlLast (contents : Text) : last ≠ .html contents := fun same =>
          listed contents (same ▸ List.mem_cons_of_mem _ inRest)
        exact absurd wrapped (not_wrapped_of_last between noHtmlLast inner)

theorem exists_wrapped_of_unwraps {blocks : List Markdown.Block}
    (ends : ∀ content, .paragraph content ∈ blocks → ∀ inner ∈ content, RawEnds inner)
    (unwraps : Unwraps blocks (Text.trim (documentHtml blocks))) :
    ∃ inner, Wrapped (Text.trim (documentHtml blocks)) inner := by
  cases unwraps with
  | html listed wrapped => exact ⟨_, wrapped⟩
  | @paragraph content alone single =>
      rw [alone] at ends ⊢
      have rawEnds := forall_rawsHtml_iff.mpr (ends content List.mem_cons_self)
      have free : ¬"<p>".toList <:+: inlinesHtml content := by
        rw [(shows_inlinesHtml content rawEnds).paragraphTag]
        rintro ⟨raw, member, inside⟩
        exact single raw member inside
      exact ⟨inlinesHtml content, trim_documentHtml_paragraph content, free⟩

end Renderer

/-! ## Documents that were read -/

theorem readBlocks_eq_map (definitions : List Markdown.Definition) (blocks : List Outline) :
    readBlocks definitions blocks = blocks.map (readBlock definitions) := by
  induction blocks with
  | nil => rfl
  | cons block rest induction => rw [readBlocks, induction, List.map_cons]

theorem rawEnds_of_mem_readDocument {t : Text} {content : List Inline}
    (listed : .paragraph content ∈ readDocument t) : ∀ inner ∈ content, RawEnds inner := by
  rw [readDocument, readBlocks_eq_map] at listed
  rcases List.mem_map.mp listed with ⟨outline, -, read⟩
  cases outline <;> rw [readBlock] at read <;> cases read
  exact rawEnds_of_mem_readInline _ _

/-- No HTML stands between the blocks of a document or in its paragraphs. -/
structure FreeOfHtml (blocks : List Markdown.Block) : Prop where
  between : ∀ contents, .html contents ∉ blocks
  within : ∀ content, .paragraph content ∈ blocks → rawsHtml content = []

theorem FreeOfHtml.unwraps_iff {blocks : List Markdown.Block} (free : FreeOfHtml blocks)
    (html : Text) : Renderer.Unwraps blocks html ↔ ∃ content, blocks = [.paragraph content] := by
  constructor
  · intro unwraps
    cases unwraps with
    | paragraph alone => exact ⟨_, alone⟩
    | html listed => exact absurd listed (free.between _)
  · rintro ⟨content, alone⟩
    have none := free.within content (alone ▸ List.mem_cons_self)
    exact .paragraph alone (by simp [none])

/-- Rendering a part of a line leaves out the tags of a paragraph in two cases: the document is one
paragraph, unless HTML in it holds a tag that opens a paragraph; or the document has a block of HTML
and its HTML starts and ends like a paragraph with no other one starting in it. In all other cases
the whole is kept. So without HTML in the text the document is one paragraph exactly if its tags are
left out. -/
theorem markdown_unwraps (t : Text) :
    (Renderer.markdown t true ≠ Renderer.markdown t false ↔
      Renderer.Unwraps (readDocument t) (Renderer.markdown t false)) ∧
    (FreeOfHtml (readDocument t) →
      (Renderer.markdown t true ≠ Renderer.markdown t false ↔
        ∃ content, readDocument t = [.paragraph content])) ∧
    (Renderer.markdown t true ≠ Renderer.markdown t false →
      Renderer.markdown t false = "<p>".toList ++ (Renderer.markdown t true ++ "</p>".toList)) := by
  have ends (content) (listed : .paragraph content ∈ readDocument t) :=
    rawEnds_of_mem_readDocument listed
  have whole := Renderer.markdown_false t
  have part := Renderer.markdown_true t
  have differs : Renderer.markdown t true ≠ Renderer.markdown t false ↔
      Renderer.Unwraps (readDocument t) (Renderer.markdown t false) := by
    constructor
    · intro differs
      rw [part] at differs
      rcases Renderer.exists_wrapped differs with ⟨inner, wrapped⟩
      rw [whole] at wrapped ⊢
      exact Renderer.unwraps_of_wrapped ends wrapped
    · intro unwraps
      rcases Renderer.exists_wrapped_of_unwraps ends unwraps with ⟨inner, wrapped⟩
      rw [part, whole, Renderer.withoutParagraph_of_wrapped wrapped]
      exact wrapped.ne
  refine ⟨differs, ?_, ?_⟩
  · intro free
    rw [differs]
    exact free.unwraps_iff _
  · intro unwrapped
    rw [part] at unwrapped ⊢
    rcases Renderer.exists_wrapped unwrapped with ⟨inner, wrapped⟩
    rw [Renderer.withoutParagraph_of_wrapped wrapped]
    exact wrapped.shape

/-- Two paragraphs, the second one written as HTML. -/
def mixedParagraphs : Text := "One\n\n<p class=\"x\">Two</p>".toList

theorem readDocument_mixedParagraphs :
    readDocument mixedParagraphs =
      [.paragraph [.text "One".toList], .html "<p class=\"x\">Two</p>".toList] := by
  rfl

theorem mixedParagraphs_torn :
    Renderer.markdown mixedParagraphs true = "One</p>\n<p class=\"x\">Two".toList ∧
      Renderer.markdown mixedParagraphs false = "<p>One</p>\n<p class=\"x\">Two</p>".toList ∧
      ¬∃ content, readDocument mixedParagraphs = [.paragraph content] := by
  rw [Renderer.markdown, Renderer.markdown, readDocument_mixedParagraphs]
  refine ⟨by rfl, by rfl, ?_⟩
  rintro ⟨content, alone⟩
  cases alone

theorem readDocument_buttons :
    readDocument "Buttons".toList = [.paragraph [.text "Buttons".toList]] := by
  rfl

theorem buttons_unwrapped :
    (Renderer.markdown "Buttons".toList true ≠ Renderer.markdown "Buttons".toList false ↔
      ∃ content, readDocument "Buttons".toList = [.paragraph content]) ∧
    Renderer.markdown "Buttons".toList false =
      "<p>".toList ++ (Renderer.markdown "Buttons".toList true ++ "</p>".toList) := by
  have free : FreeOfHtml (readDocument "Buttons".toList) := by
    rw [readDocument_buttons]
    exact ⟨by simp, by simp [rawsHtml, rawHtml]⟩
  have differs : Renderer.markdown "Buttons".toList true ≠
      Renderer.markdown "Buttons".toList false := by
    rw [Renderer.markdown, Renderer.markdown, readDocument_buttons]
    decide
  exact ⟨(markdown_unwraps "Buttons".toList).2.1 free,
    (markdown_unwraps "Buttons".toList).2.2 differs⟩

end StyleCatalog
