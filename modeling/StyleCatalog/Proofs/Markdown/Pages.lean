import Mathlib.Data.List.Basic
import StyleCatalog.Markdown.Html
import StyleCatalog.Proofs.Text.Pieces

/-! # Written blocks

Blocks are written one after the other and nothing written is taken back. A block that is neither a
paragraph nor HTML begins with a tag that opens no paragraph and ends with one that closes none:
`goesOnWithElement_putBlock`.
-/

namespace StyleCatalog.Markdown

namespace Page

variable (page : Page)

theorem text_put (t : Text) : (page.put t).text = page.text ++ t := by
  rw [text, put, List.reverse_append, List.reverse_reverse, text]

/-- What begins a line. -/
def gap : Text :=
  match page.written with
  | [] => []
  | '\n' :: _ => []
  | _ => ['\n']

theorem text_freshLine : page.freshLine.text = page.text ++ page.gap := by
  rcases page with ⟨written⟩
  match written with
  | [] => rfl
  | c :: rest =>
    by_cases feed : c = '\n'
    · rw [feed]
      exact (List.append_nil _).symm
    · simp [freshLine, gap, feed, text_put]

theorem isPrefix_put (t : Text) : page.text <+: (page.put t).text := by
  rw [text_put]
  exact List.prefix_append _ _

theorem isPrefix_freshLine_put (t : Text) : page.text <+: (page.freshLine.put t).text := by
  rw [text_put, text_freshLine, List.append_assoc]
  exact List.prefix_append _ _

end Page

/-! ## Nothing is taken back -/

mutual

theorem isPrefix_putBlock (tight : Bool) (page : Page) :
    ∀ block : Block, page.text <+: (putBlock tight page block).text
  | .paragraph content => by
    cases tight with
    | true => exact page.isPrefix_put _
    | false =>
      exact (page.isPrefix_freshLine_put _).trans
        ((Page.isPrefix_put _ _).trans (Page.isPrefix_put _ _))
  | .heading _ _ => page.isPrefix_freshLine_put _
  | .rule => page.isPrefix_freshLine_put _
  | .code _ _ => page.isPrefix_freshLine_put _
  | .html contents => page.isPrefix_put contents
  | .quote children =>
    (page.isPrefix_freshLine_put _).trans <|
      (isPrefix_putBlocks false _ children).trans (Page.isPrefix_put _ _)
  | .list _ tight items =>
    (page.isPrefix_freshLine_put _).trans <|
      (isPrefix_putItems tight _ items).trans (Page.isPrefix_put _ _)
  | .table _ _ _ => page.isPrefix_put _

theorem isPrefix_putBlocks (tight : Bool) (page : Page) :
    ∀ blocks : List Block, page.text <+: (putBlocks tight page blocks).text
  | [] => List.prefix_rfl
  | block :: rest =>
    (isPrefix_putBlock tight page block).trans (isPrefix_putBlocks tight _ rest)

theorem isPrefix_putItems (tight : Bool) (page : Page) :
    ∀ items : List (List Block), page.text <+: (putItems tight page items).text
  | [] => List.prefix_rfl
  | item :: rest =>
    (page.isPrefix_freshLine_put _).trans <|
      (isPrefix_putBlocks tight _ item).trans <|
        (Page.isPrefix_put _ _).trans (isPrefix_putItems tight _ rest)

end

theorem putBlocks_append (tight : Bool) (page : Page) (blocks others : List Block) :
    putBlocks tight page (blocks ++ others) =
      putBlocks tight (putBlocks tight page blocks) others := by
  induction blocks generalizing page with
  | nil => rfl
  | cons block rest induction => exact induction _

/-! ## Blocks with tags of their own -/

/-- A text begins with a tag that opens no paragraph. -/
def OpensElement (html : Text) : Prop :=
  ∃ c d rest, html = '<' :: c :: d :: rest ∧ ¬(c = 'p' ∧ d = '>')

/-- A text ends with a tag that closes no paragraph, and a line feed. -/
def ClosesElement (html : Text) : Prop :=
  ∃ before c, html = before ++ [c, '>', '\n'] ∧ c ≠ 'p'

theorem OpensElement.append {html : Text} (opens : OpensElement html) (more : Text) :
    OpensElement (html ++ more) := by
  rcases opens with ⟨c, d, rest, rfl, other⟩
  exact ⟨c, d, rest ++ more, rfl, other⟩

theorem ClosesElement.append {html : Text} (closes : ClosesElement html) (before : Text) :
    ClosesElement (before ++ html) := by
  rcases closes with ⟨start, c, rfl, other⟩
  exact ⟨before ++ start, c, (List.append_assoc _ _ _).symm, other⟩

/-- Text from one tag to another, neither of them that of a paragraph. -/
structure IsElement (html : Text) : Prop where
  opens : OpensElement html
  closes : ClosesElement html

theorem isElement_between {opening closing : Text} (opens : OpensElement opening)
    (closes : ClosesElement closing) (inner : Text) :
    IsElement (opening ++ inner ++ closing) :=
  ⟨(opens.append inner).append closing, closes.append _⟩

theorem isElement_heading (level : Nat) (inner : Text) :
    IsElement ('<' :: ('h' :: Text.ofNat level) ++ ['>'] ++ inner ++ "</".toList ++
      'h' :: Text.ofNat level ++ ">\n".toList) := by
  have opens : OpensElement ('<' :: ('h' :: Text.ofNat level) ++ ['>']) := by
    cases shape : Text.ofNat level with
    | nil => exact absurd shape (Text.ofNat_ne_nil level)
    | cons d rest => exact ⟨'h', d, rest ++ ['>'], rfl, fun tag => absurd tag.1 (by decide)⟩
  have closes : ClosesElement ("</".toList ++ 'h' :: Text.ofNat level ++ ">\n".toList) := by
    rcases List.eq_nil_or_concat' (Text.ofNat level) with none | ⟨digits, last, shape⟩
    · exact absurd none (Text.ofNat_ne_nil level)
    · have digit : last.isDigit = true :=
        Text.isDigit_of_mem_ofNat (shape ▸ List.mem_append_right _ List.mem_cons_self)
      refine ⟨"</h".toList ++ digits, last, ?_, fun same => ?_⟩
      · rw [shape]
        simp
      · rw [same] at digit
        exact absurd digit (by decide)
  have whole := isElement_between opens closes inner
  simpa only [List.append_assoc] using whole

theorem opensElement_codeTag (language : Text) : OpensElement (codeTag language) := by
  rw [codeTag]
  split_ifs
  · exact ⟨'p', 'r', _, rfl, by decide⟩
  · exact ⟨'p', 'r', _, rfl, by decide⟩

theorem opensElement_listTag (start : Option Nat) : OpensElement (listTag start) := by
  rw [listTag.eq_def]
  split
  · exact ⟨'u', 'l', _, rfl, by decide⟩
  · exact ⟨'o', 'l', _, rfl, by decide⟩
  · exact ⟨'o', 'l', _, rfl, by decide⟩

theorem closesElement_list (numbered : Bool) :
    ClosesElement (if numbered then "</ol>\n".toList else "</ul>\n".toList) := by
  split_ifs
  · exact ⟨"</o".toList, 'l', rfl, by decide⟩
  · exact ⟨"</u".toList, 'l', rfl, by decide⟩

/-- The page goes on with an element, at the start of a line or right where it ended. -/
def Page.GoesOnWithElement (page after : Page) : Prop :=
  ∃ gap html, gap <+: page.gap ∧ after.text = page.text ++ (gap ++ html) ∧ IsElement html

theorem goesOnWithElement_line (page : Page) {html : Text} (element : IsElement html) :
    page.GoesOnWithElement (page.freshLine.put html) := by
  refine ⟨page.gap, html, List.prefix_rfl, ?_, element⟩
  rw [Page.text_put, Page.text_freshLine, List.append_assoc]

/-- An element is written if its first tag begins a line and the last one stands at the end. -/
theorem goesOnWithElement_around {page inner : Page} {opening closing : Text}
    (opens : OpensElement opening) (closes : ClosesElement closing)
    (around : (page.freshLine.put opening).text <+: inner.text) :
    page.GoesOnWithElement (inner.put closing) := by
  rcases around with ⟨more, shape⟩
  refine ⟨page.gap, _, List.prefix_rfl, ?_, isElement_between opens closes more⟩
  rw [Page.text_put, ← shape, Page.text_put, Page.text_freshLine]
  simp only [List.append_assoc]

/-- What is written for a block that is neither a paragraph nor HTML is an element. -/
theorem goesOnWithElement_putBlock (page : Page) {block : Block}
    (noParagraph : ∀ content, block ≠ .paragraph content)
    (noHtml : ∀ contents, block ≠ .html contents) :
    page.GoesOnWithElement (putBlock false page block) := by
  cases block with
  | paragraph content => exact absurd rfl (noParagraph content)
  | html contents => exact absurd rfl (noHtml contents)
  | heading level content =>
      exact goesOnWithElement_line page (isElement_heading level (inlinesHtml content))
  | rule =>
      have tag : IsElement "<hr />\n".toList :=
        ⟨⟨'h', 'r', " />\n".toList, rfl, by decide⟩, ⟨"<hr ".toList, '/', rfl, by decide⟩⟩
      exact goesOnWithElement_line page tag
  | code language contents =>
      have closes : ClosesElement "</code></pre>\n".toList :=
        ⟨"</code></pr".toList, 'e', rfl, by decide⟩
      exact goesOnWithElement_line page
        (isElement_between (opensElement_codeTag language) closes (escapeBody contents))
  | quote children =>
      have opens : OpensElement "<blockquote>\n".toList := ⟨'b', 'l', _, rfl, by decide⟩
      have closes : ClosesElement "</blockquote>\n".toList :=
        ⟨"</blockquot".toList, 'e', rfl, by decide⟩
      exact goesOnWithElement_around opens closes (isPrefix_putBlocks false _ children)
  | list start tight items =>
      exact goesOnWithElement_around (opensElement_listTag start) (closesElement_list start.isSome)
        (isPrefix_putItems tight _ items)
  | table alignments head rows =>
      have opens : OpensElement "<table><thead><tr>".toList := ⟨'t', 'a', _, rfl, by decide⟩
      have closes : ClosesElement "</tbody></table>\n".toList :=
        ⟨"</tbody></tabl".toList, 'e', rfl, by decide⟩
      refine ⟨[], tableHtml alignments head rows, List.nil_prefix, page.text_put _, ?_, ?_⟩
      · exact (((opens.append _).append _).append _).append _
      · exact closes.append _

end StyleCatalog.Markdown
