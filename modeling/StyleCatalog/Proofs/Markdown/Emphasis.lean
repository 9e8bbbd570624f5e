import Mathlib.Tactic.SplitIfs
import StyleCatalog.Markdown.Emphasis

/-! # What emphasis keeps

Deciding emphasis moves content and wraps it. A property that text has and that wrapping keeps holds
of the result if it holds of all content that goes in: `resolveEmphasis_holds`.
-/

namespace StyleCatalog.Markdown

/-- A property of content that text has, and that emphasis keeps. -/
structure KeptByEmphasis (holds : Inline → Prop) : Prop where
  text : ∀ t, holds (.text t)
  hardBreak : holds .hardBreak
  emphasis : ∀ content, (∀ inner ∈ content, holds inner) → holds (.emphasis content)
  strong : ∀ content, (∀ inner ∈ content, holds inner) → holds (.strong content)
  strikethrough : ∀ content, (∀ inner ∈ content, holds inner) → holds (.strikethrough content)

/-- Finished content of a piece has a property. -/
def Piece.Holds (holds : Inline → Prop) : Piece → Prop
  | .done content => holds content
  | .run _ => True
  | .escapedBreak => True

variable {holds : Inline → Prop} (kept : KeptByEmphasis holds)

include kept

theorem holds_markText (mark : Char) (count : Nat) :
    ∀ inner ∈ markText mark count, holds inner := by
  intro inner member
  rw [markText] at member
  split_ifs at member
  · cases member
  · rw [List.mem_singleton.mp member]
    exact kept.text _

theorem holds_flatten {opener : Opener} (inside : ∀ inner ∈ opener.content, holds inner) :
    ∀ inner ∈ opener.flatten, holds inner := by
  intro inner member
  rcases List.mem_append.mp member with marks | content
  · exact holds_markText kept _ _ _ marks
  · exact inside _ (List.mem_reverse.mp content)

namespace Walk

omit kept in
/-- All content of a walk has a property. -/
structure Holds (holds : Inline → Prop) (walk : Walk) : Prop where
  base : ∀ inner ∈ walk.base, holds inner
  openers : ∀ opener ∈ walk.openers, ∀ inner ∈ opener.content, holds inner

variable {walk : Walk}

omit kept in
theorem Holds.add (already : walk.Holds holds) {content : List Inline}
    (more : ∀ inner ∈ content, holds inner) : (walk.add content).Holds holds := by
  have front {before : List Inline} (inside : ∀ inner ∈ before, holds inner) :
      ∀ inner ∈ content.reverse ++ before, holds inner := by
    intro inner member
    rcases List.mem_append.mp member with new | old
    · exact more _ (List.mem_reverse.mp new)
    · exact inside _ old
  rw [Walk.add]
  cases shape : walk.openers with
  | nil => exact ⟨front already.base, by simp⟩
  | cons top below =>
      have open_ := already.openers
      rw [shape, List.forall_mem_cons] at open_
      exact ⟨already.base, List.forall_mem_cons.mpr ⟨front open_.1, open_.2⟩⟩

theorem holds_of_findOpener {run : Run} {openers below : List Opener} {above : List Inline}
    {opener : Opener} (found : findOpener run openers = some (above, opener, below))
    (inside : ∀ opener ∈ openers, ∀ inner ∈ opener.content, holds inner) :
    (∀ inner ∈ above, holds inner) ∧ (∀ inner ∈ opener.content, holds inner) ∧
      ∀ opener ∈ below, ∀ inner ∈ opener.content, holds inner := by
  induction openers generalizing above with
  | nil => cases found
  | cons first rest induction =>
      rw [List.forall_mem_cons] at inside
      rw [findOpener] at found
      split_ifs at found with fits
      · cases found
        exact ⟨by simp, inside⟩
      · rcases Option.map_eq_some_iff.mp found with ⟨⟨before, others⟩, later, shape⟩
        cases shape
        rcases induction later inside.2 with ⟨inAbove, rest⟩
        refine ⟨fun inner member => ?_, rest⟩
        rcases List.mem_append.mp member with there | flat
        · exact inAbove _ there
        · exact holds_flatten kept inside.1 _ flat

theorem holds_wrap (mark : Char) (count : Nat) {content : List Inline}
    (inside : ∀ inner ∈ content, holds inner) :
    ∀ inner ∈ wrap mark count content, holds inner := by
  fun_induction wrap mark count content with
  | case1 => exact inside
  | case2 => exact List.forall_mem_singleton.mpr (kept.strikethrough _ inside)
  | case3 => exact List.forall_mem_singleton.mpr (kept.emphasis _ inside)
  | case4 count content induction =>
      apply induction
      split_ifs
      · exact List.forall_mem_singleton.mpr (kept.strikethrough _ inside)
      · exact List.forall_mem_singleton.mpr (kept.strong _ inside)

omit kept in
theorem holds_spoiled {openers : List Opener} (spoil : Opener → Opener)
    (same : ∀ opener, (spoil opener).content = opener.content)
    (inside : ∀ opener ∈ openers, ∀ inner ∈ opener.content, holds inner) :
    ∀ opener ∈ openers.map spoil, ∀ inner ∈ opener.content, holds inner := by
  intro opener member
  rcases List.mem_map.mp member with ⟨before, there, rfl⟩
  rw [same]
  exact inside before there

theorem Holds.close {run : Run} (steps count : Nat) (already : walk.Holds holds) :
    (close run steps count walk).1.Holds holds := by
  induction steps generalizing count walk with
  | zero => exact already
  | succ steps induction =>
      rw [Walk.close]
      by_cases none : count = 0
      · rw [if_pos none]
        exact already
      rw [if_neg none]
      cases found : findOpener run walk.openers with
      | none =>
          by_cases tilde : run.mark = '~'
          · simp only [if_pos tilde]
            refine ⟨already.base, holds_spoiled _ (fun opener => ?_) already.openers⟩
            split_ifs <;> rfl
          · simp only [if_neg tilde]
            exact already
      | some parts =>
          rcases parts with ⟨above, opener, below⟩
          rcases holds_of_findOpener kept found already.openers with ⟨inAbove, inOpener, inBelow⟩
          have content : ∀ inner ∈ opener.content.reverse ++ above, holds inner := by
            rw [List.forall_mem_append]
            exact ⟨fun inner member => inOpener inner (List.mem_reverse.mp member), inAbove⟩
          have wrapped := holds_wrap kept run.mark (min count opener.count) content
          have rest : Holds holds { walk with openers := below } := ⟨already.base, inBelow⟩
          apply induction
          split_ifs
          · exact rest.add wrapped
          · refine ⟨already.base, List.forall_mem_cons.mpr ⟨fun inner member => ?_, inBelow⟩⟩
            exact wrapped inner (List.mem_reverse.mp member)

theorem Holds.takeRun (run : Run) (already : walk.Holds holds) :
    (walk.takeRun run).Holds holds := by
  have closed : (if run.canClose then Walk.close run run.length run.length walk
      else (walk, run.length)).1.Holds holds := by
    split_ifs
    · exact already.close kept _ _
    · exact already
  rw [Walk.takeRun]
  split_ifs at closed ⊢
  all_goals first
    | exact closed
    | exact closed.add (holds_markText kept _ _)
    | exact ⟨closed.base, List.forall_mem_cons.mpr ⟨by simp, closed.openers⟩⟩

theorem Holds.take {piece : Piece} (already : walk.Holds holds) (inside : piece.Holds holds) :
    (walk.take piece).Holds holds := by
  cases piece with
  | done content => exact already.add (List.forall_mem_singleton.mpr inside)
  | run marks => exact already.takeRun kept marks
  | escapedBreak => exact already.add (List.forall_mem_singleton.mpr kept.hardBreak)

theorem Holds.takeAll {pieces : List Piece} (already : walk.Holds holds)
    (inside : ∀ piece ∈ pieces, piece.Holds holds) : (pieces.foldl Walk.take walk).Holds holds := by
  induction pieces generalizing walk with
  | nil => exact already
  | cons piece rest induction =>
      rw [List.forall_mem_cons] at inside
      exact induction (already.take kept inside.1) inside.2

theorem Holds.finish (already : walk.Holds holds) : ∀ inner ∈ walk.finish, holds inner := by
  intro inner member
  rcases List.mem_append.mp member with base | flat
  · exact already.base inner (List.mem_reverse.mp base)
  · rcases List.mem_flatten.mp flat with ⟨content, listed, member⟩
    rcases List.mem_map.mp listed with ⟨opener, open_, rfl⟩
    exact holds_flatten kept (already.openers opener (List.mem_reverse.mp open_)) inner member

end Walk

/-- All content of a result has a property that all content of the pieces has. -/
theorem resolveEmphasis_holds {pieces : List Piece} (inside : ∀ piece ∈ pieces, piece.Holds holds) :
    ∀ inner ∈ resolveEmphasis pieces, holds inner := by
  have empty : Walk.Holds holds {} := ⟨by simp, by simp⟩
  rw [resolveEmphasis]
  split
  · split_ifs
    · have before := empty.takeAll kept fun piece member =>
        inside piece ((List.dropLast_sublist _).subset member)
      exact (before.add (List.forall_mem_singleton.mpr (kept.text _))).finish kept
    · exact (empty.takeAll kept inside).finish kept
  · exact (empty.takeAll kept inside).finish kept

end StyleCatalog.Markdown
