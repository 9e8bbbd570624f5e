import Mathlib.Data.List.Forall2
import StyleCatalog.Proofs.Markdown.Escaping
import StyleCatalog.Proofs.Section.Merging

/-! # Texts of sections without Markdown

Without Markdown a build escapes the header, the description and the descriptions of the modifiers
once each, and no later step of it touches them. They are safe in a page, and what the comment says
can be read back from them: `texts_escaped_of_build`.
-/

namespace StyleCatalog

open Markdown (Escapes escapes_escapeBody)

/-- A modifier shows the variant that it was made of. -/
structure Modifier.Shows (modifier : Modifier) (variant : Variant) : Prop where
  name : modifier.name = variant.name
  description : Escapes modifier.description variant.description.trim

theorem escapes_plain (t : Text) (inline : Bool) : Escapes (Renderer.plain t inline) t.trim :=
  escapes_escapeBody t.trim

theorem shows_modifiersFrom (markup : Option Text) (position : Nat) (variants : List Variant) :
    List.Forall₂ Modifier.Shows (Entry.modifiersFrom Renderer.plain markup position variants)
      variants := by
  induction variants generalizing position with
  | nil => exact .nil
  | cons variant rest induction =>
      rw [Entry.modifiersFrom]
      exact .cons ⟨rfl, escapes_plain variant.description true⟩ (induction _)

theorem builder_of_plain {options : Options} (plain : options.markdown = false) :
    options.builder = ⟨options.marker, Renderer.plain⟩ := by
  rw [Options.builder, Options.renderer, plain, if_neg Bool.false_ne_true]

/-- Escaped text is safe and lossless. With Markdown off, the header, the description and the
modifiers of a built section show the texts of the comment's first entry, white space around them
aside, unless a parameter replaces the header or the description. -/
theorem texts_escaped_of_build {options : Options} {block : Block} {s : Section}
    {notices : List Notice} (plain : options.markdown = false)
    (success : options.builder.build block = .ok (some s, notices))
    (untouched : ∀ parameter ∈ parameters options.marker block.comment,
      parameter.name ≠ "header".toList ∧ parameter.name ≠ "description".toList) :
    ∃ entry others,
      Entry.ofComment (cleanComment options.marker block.comment) = .ok (entry :: others) ∧
      Escapes s.header entry.header.trim ∧
      Escapes s.description entry.description.trim ∧
      List.Forall₂ Modifier.Shows s.modifiers entry.variants := by
  rw [builder_of_plain plain] at success
  rcases Builder.exists_of_build success with ⟨entry, others, read, merges⟩
  have header : s.header = Renderer.plain entry.header true :=
    Option.some.inj (merges.textField_eq_of_absent .header fun parameter member =>
      (untouched parameter member).1)
  have description : s.description = Renderer.plain entry.description false :=
    Option.some.inj (merges.textField_eq_of_absent .description fun parameter member =>
      (untouched parameter member).2)
  refine ⟨entry, others, read, ?_, ?_, ?_⟩
  · rw [header]
    exact escapes_plain _ _
  · rw [description]
    exact escapes_plain _ _
  · rw [merges.modifiers_eq]
    exact shows_modifiersFrom _ _ _

/-- A comment with tags, with references and with parts of references. -/
def markedUpBlock : Block where
  comment :=
    "<b>A</b> &lt; B\n\n&amp;amp; &am p; && >\n\n.x - <&gt;\nsg-theme: <i>\n\nStyleguide 1".toList
  code := none

def escapedSection : Section where
  header := "&lt;b&gt;A&lt;/b&gt; &amp;lt; B".toList
  description := "&amp;amp;amp; &amp;am p; &amp;&amp; &gt;".toList
  modifiers := [⟨1, ".x".toList, "&lt;&amp;gt;".toList, "x".toList, none⟩]
  reference := "1".toList
  extras := Extras.empty.insert "theme".toList "<i>".toList

def plainOptions : Options where
  markdown := false

theorem markedUpBlock_escaped :
    plainOptions.builder.build markedUpBlock = .ok (some escapedSection, []) ∧
      ∃ entry others,
        Entry.ofComment (cleanComment plainOptions.marker markedUpBlock.comment) =
          .ok (entry :: others) ∧
        Escapes escapedSection.header entry.header.trim ∧
        Escapes escapedSection.description entry.description.trim ∧
        List.Forall₂ Modifier.Shows escapedSection.modifiers entry.variants := by
  have built : plainOptions.builder.build markedUpBlock = .ok (some escapedSection, []) := by
    rfl
  have untouched : ∀ parameter ∈ parameters plainOptions.marker markedUpBlock.comment,
      parameter.name ≠ "header".toList ∧ parameter.name ≠ "description".toList := by
    decide
  exact ⟨built, texts_escaped_of_build rfl built untouched⟩

end StyleCatalog
