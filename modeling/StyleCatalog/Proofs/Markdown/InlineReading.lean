import StyleCatalog.Proofs.Markdown.Emphasis
import StyleCatalog.Proofs.Markdown.RawHtml
import StyleCatalog.Proofs.Markdown.Tags

/-! # HTML in inline content that was read

All HTML that stands as it is in inline content that was read ends with a closing angle bracket:
`rawEnds_of_mem_readInline`.
-/

namespace StyleCatalog.Markdown

/-! ## Single pieces -/

theorem rawEnds_text (t : Text) : RawEnds (.text t) := by simp [RawEnds, rawHtml]

theorem rawEnds_keptByEmphasis : KeptByEmphasis RawEnds where
  text := rawEnds_text
  hardBreak := by simp [RawEnds, rawHtml]
  emphasis _ := forall_rawsHtml_iff.mpr
  strong _ := forall_rawsHtml_iff.mpr
  strikethrough _ := forall_rawsHtml_iff.mpr

namespace Node

/-- All HTML in a node ends with a bracket. -/
def RawEnds (node : Node) : Prop := node.toPiece.Holds Markdown.RawEnds

theorem rawEnds_bracket (image active : Bool) (after : Text) :
    (Node.bracket image active after).RawEnds := rawEnds_text _

theorem RawEnds.deactivate {node : Node} (ends : node.RawEnds) : node.deactivate.RawEnds := by
  rw [Node.deactivate.eq_def]
  split
  · exact rawEnds_bracket _ _ _
  · exact ends

end Node

/-! ## The pass -/

variable {nodes : List Node} (already : ∀ node ∈ nodes, node.RawEnds)

include already

theorem rawEnds_addText (t : Text) : ∀ node ∈ addText nodes t, node.RawEnds := by
  rw [addText.eq_def]
  split
  · rw [List.forall_mem_cons] at already
    exact List.forall_mem_cons.mpr ⟨rawEnds_text _, already.2⟩
  · exact List.forall_mem_cons.mpr ⟨rawEnds_text _, already⟩

theorem rawEnds_cons {content : Inline} (ends : RawEnds content) :
    ∀ node ∈ .piece (.done content) :: nodes, node.RawEnds :=
  List.forall_mem_cons.mpr ⟨ends, already⟩

omit already in
/-- What is read between two brackets has no other HTML than the nodes between them. -/
theorem rawEnds_resolveEmphasis {inside : List Node} (ends : ∀ node ∈ inside, node.RawEnds) :
    ∀ content ∈ resolveEmphasis (inside.reverse.map Node.toPiece), RawEnds content := by
  refine resolveEmphasis_holds rawEnds_keptByEmphasis fun piece member => ?_
  rcases List.mem_map.mp member with ⟨node, reversed, rfl⟩
  exact ends node (List.mem_reverse.mp reversed)

omit already in
/-- Brackets that make no link stay text. -/
theorem rawEnds_unlinked {inside below : List Node} (insideEnds : ∀ node ∈ inside, node.RawEnds)
    (belowEnds : ∀ node ∈ below, node.RawEnds) (t : Text) :
    ∀ node ∈ Node.text [']'] :: inside ++ Node.text t :: below, node.RawEnds := by
  refine List.forall_mem_append.mpr ⟨rawEnds_cons insideEnds (rawEnds_text _), ?_⟩
  exact rawEnds_cons belowEnds (rawEnds_text _)

theorem rawEnds_closeBracket (definitions : List Definition) (rest : Text) :
    ∀ node ∈ (closeBracket definitions nodes rest).1, node.RawEnds := by
  generalize shape : nodes.takeWhile (fun node => !node.isBracket) = inside
  have insideEnds : ∀ node ∈ inside, node.RawEnds := fun node member =>
    already node ((List.takeWhile_prefix _).subset (shape ▸ member))
  have fromEnds : ∀ node ∈ nodes.drop inside.length, node.RawEnds := fun node member =>
    already node (List.mem_of_mem_drop member)
  rw [closeBracket, shape]
  dsimp only
  split
  · rename_i image after below opened
    have belowEnds := (List.forall_mem_cons.mp (opened ▸ fromEnds)).2
    split
    · rename_i destination title remaining target
      cases image with
      | true => exact rawEnds_cons belowEnds (by simp [RawEnds, rawHtml])
      | false =>
          have link := forall_rawsHtml_iff.mpr (rawEnds_resolveEmphasis insideEnds)
          refine List.forall_mem_cons.mpr ⟨link, fun node member => ?_⟩
          rcases List.mem_map.mp member with ⟨active, there, rfl⟩
          exact (belowEnds active there).deactivate
    · exact rawEnds_unlinked insideEnds belowEnds _
  · rename_i image after below opened
    exact rawEnds_unlinked insideEnds (List.forall_mem_cons.mp (opened ▸ fromEnds)).2 _
  · exact rawEnds_cons already (rawEnds_text _)

theorem rawEnds_readNodes (definitions : List Definition) (source : Source) (steps : Nat)
    (before : Option Char) (t : Text) :
    ∀ node ∈ readNodes definitions source steps before nodes t, node.RawEnds := by
  have marks (content : Piece) (plain : content.Holds RawEnds) {nodes : List Node}
      (already : ∀ node ∈ nodes, node.RawEnds) : ∀ node ∈ .piece content :: nodes, node.RawEnds :=
    List.forall_mem_cons.mpr ⟨plain, already⟩
  fun_induction readNodes definitions source steps before nodes t
  case case1 | case2 => exact already
  -- Line breaks.
  case case3 induction =>
    refine induction _ _ _ (rawEnds_cons already ?_)
    change RawEnds (ite _ _ _)
    split <;> simp [RawEnds, rawHtml]
  case case5 next _ _ induction =>
    rw [next]
    exact induction _ _ _ (marks .escapedBreak trivial already)
  -- Plain text.
  case case6 mark _ last _ induction =>
    simp only [last, if_pos mark]
    exact induction _ _ _ (rawEnds_addText already _)
  case case7 noMark _ last _ induction =>
    simp only [last, if_neg noMark]
    exact induction _ _ _ (rawEnds_addText already _)
  case case4 induction | case8 induction | case10 induction | case14 induction | case15 induction
    | case16 induction | case21 induction | case22 induction =>
    exact induction _ _ _ (rawEnds_addText already _)
  -- Code, addresses and HTML.
  case case9 induction => exact induction _ _ _ (rawEnds_cons already (by simp [RawEnds, rawHtml]))
  case case11 induction | case12 induction =>
    exact induction _ _ _ (rawEnds_cons already (by simp [RawEnds, rawHtml, rawsHtml]))
  case case13 found _ _ _ induction =>
    refine induction _ _ _ (rawEnds_cons already fun raw member => ?_)
    rw [List.mem_singleton.mp member]
    exact markup?_getLast? found
  -- Brackets and runs of marks.
  case case17 induction | case18 induction =>
    exact induction _ _ _ (List.forall_mem_cons.mpr ⟨Node.rawEnds_bracket _ _ _, already⟩)
  case case19 induction => exact induction _ _ _ (rawEnds_closeBracket already definitions _)
  case case20 induction => exact induction _ _ _ (marks (.run _) trivial already)

omit already in
theorem rawEnds_addTail (source : Source) {content : List Inline}
    (ends : ∀ inner ∈ content, RawEnds inner) :
    ∀ inner ∈ addTail source content, RawEnds inner := by
  rw [addTail]
  split
  · exact ends
  · split
    · rename_i t before reversed
      have kept : ∀ inner ∈ before, RawEnds inner := fun inner member =>
        ends inner (List.mem_reverse.mp (reversed ▸ List.mem_cons_of_mem _ member))
      intro inner member
      rcases List.mem_cons.mp (List.mem_reverse.mp member) with here | there
      · exact here ▸ rawEnds_text _
      · exact kept inner there
    · split
      · exact List.forall_mem_append.mpr
          ⟨ends, List.forall_mem_singleton.mpr (rawEnds_text _)⟩
      · exact ends

omit already in
/-- All HTML in inline content that was read ends with a closing angle bracket. -/
theorem rawEnds_of_mem_readInline (definitions : List Definition) (source : Source) :
    ∀ content ∈ readInline definitions source, RawEnds content := by
  have empty : ∀ node ∈ ([] : List Node), node.RawEnds := by simp
  rw [readInline]
  apply rawEnds_addTail
  exact rawEnds_resolveEmphasis (rawEnds_readNodes empty definitions source _ _ _)

end StyleCatalog.Markdown
