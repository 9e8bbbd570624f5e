import StyleCatalog.Proofs.Comment.Joining

/-! # Kinds of paragraphs

Below the header of an entry each kind of paragraph fills fields of its own. So an entry is what
four readings give, each of the paragraphs of one kind alone, `absorbAll_eq_readApart`; and how the
kinds are mixed in a comment does not matter, `ofComment_reordered`.
-/

namespace StyleCatalog

namespace Paragraph

/-- What a paragraph below the header declares. -/
inductive Kind where
  | markup
  | weight
  | variants
  | prose
  deriving DecidableEq

/-- The kind of a paragraph, decided by its first line: markup is looked for first, then a weight,
then modifiers. -/
def kind : Paragraph → Kind
  | [] => .prose
  | first :: _ =>
    if (markup? first).isSome then .markup
    else if (weight? first).isSome then .weight
    else if (modifier? first).isSome then .variants
    else .prose

/-- The paragraphs of one kind, in order. -/
def ofKind (wanted : Kind) (paragraphs : List Paragraph) : List Paragraph :=
  paragraphs.filter fun paragraph => kind paragraph = wanted

theorem ofKind_cons_self {paragraph : Paragraph} {wanted : Kind}
    (isWanted : kind paragraph = wanted) (rest : List Paragraph) :
    ofKind wanted (paragraph :: rest) = paragraph :: ofKind wanted rest :=
  List.filter_cons_of_pos (decide_eq_true isWanted)

theorem ofKind_cons_of_ne {paragraph : Paragraph} {wanted : Kind}
    (other : kind paragraph ≠ wanted) (rest : List Paragraph) :
    ofKind wanted (paragraph :: rest) = ofKind wanted rest :=
  List.filter_cons_of_neg fun same => other (of_decide_eq_true same)

theorem ofKind_append (wanted : Kind) (paragraphs others : List Paragraph) :
    ofKind wanted (paragraphs ++ others) = ofKind wanted paragraphs ++ ofKind wanted others :=
  List.filter_append paragraphs others

end Paragraph

namespace Entry

open Paragraph

/-! ## What a paragraph contributes -/

/-- The entry after a paragraph of prose: flagged if the paragraph starts with a flag word, and
described by what is left. -/
def describe (entry : Entry) (paragraph : Paragraph) : Entry :=
  let flagged := entry.takeFlag (Paragraph.text paragraph)
  flagged.1.addProse flagged.2

/-- What a paragraph does to every entry. Only a weight can be at fault, and none of the changes
looks at the fields of another kind. -/
inductive Contributes (paragraph : Paragraph) : Prop
  | markup (isMarkup : kind paragraph = .markup) (markup : Option Text)
      (taken : ∀ entry : Entry, entry.absorb paragraph = .ok { entry with markup := markup })
  | weight (isWeight : kind paragraph = .weight) (value : Text)
      (taken : ∀ entry : Entry, entry.absorb paragraph =
        (Weight.parse value).map fun weight => { entry with weight := weight })
  | variants (isVariants : kind paragraph = .variants) (more : List Variant)
      (taken : ∀ entry : Entry,
        entry.absorb paragraph = .ok { entry with variants := entry.variants ++ more })
  | prose (isProse : kind paragraph = .prose)
      (taken : ∀ entry : Entry, entry.absorb paragraph = .ok (entry.describe paragraph))

theorem contributes (paragraph : Paragraph) : Contributes paragraph := by
  cases paragraph with
  | nil => exact .prose rfl fun entry => rfl
  | cons first more =>
      cases marked : markup? first with
      | some markup =>
          apply Contributes.markup (by simp [kind, marked]) (markupOf markup more)
          intro entry
          simp only [absorb, marked]
      | none =>
          cases weighed : weight? first with
          | some value =>
              apply Contributes.weight (by simp [kind, marked, weighed]) value
              intro entry
              simp only [absorb, marked, weighed]
          | none =>
              cases varied : (modifier? first).isSome with
              | true =>
                  apply Contributes.variants (by simp [kind, marked, weighed, varied])
                    (readVariants [] (first :: more))
                  intro entry
                  simp only [absorb, marked, weighed, varied, if_true]
              | false =>
                  apply Contributes.prose (by simp [kind, marked, weighed, varied])
                  intro entry
                  simp only [absorb, marked, weighed, varied, describe, Bool.false_eq_true,
                    if_false]

/-! ## Reading the kinds apart -/

/-- The entry that has the weight, the markup and the variants of three entries and all else of the
last one. -/
def assemble (weighed marked varied described : Entry) : Entry :=
  { described with
    weight := weighed.weight
    markup := marked.markup
    variants := varied.variants }

theorem describe_assemble (weighed marked varied described : Entry) (paragraph : Paragraph) :
    (assemble weighed marked varied described).describe paragraph =
      assemble weighed marked varied (described.describe paragraph) := by
  have flagged (t : Text) : (assemble weighed marked varied described).takeFlag t =
      (assemble weighed marked varied (described.takeFlag t).1, (described.takeFlag t).2) := by
    rw [takeFlag, takeFlag]
    cases Flag.read? t with
    | none => rfl
    | some found =>
        rcases found with ⟨_ | _, rest⟩ <;> rfl
  rw [describe, describe, flagged]
  dsimp only
  rw [addProse, addProse]
  split <;> rfl

/-- Four entries that each take in the paragraphs of one kind, put together. -/
def readApart (weighed marked varied described : Entry) (paragraphs : List Paragraph) :
    Except CommentError Entry := do
  let weighed ← weighed.absorbAll (ofKind .weight paragraphs)
  let marked ← marked.absorbAll (ofKind .markup paragraphs)
  let varied ← varied.absorbAll (ofKind .variants paragraphs)
  let described ← described.absorbAll (ofKind .prose paragraphs)
  return assemble weighed marked varied described

theorem absorbAll_assemble (weighed marked varied described : Entry) (paragraphs : List Paragraph) :
    (assemble weighed marked varied described).absorbAll paragraphs =
      readApart weighed marked varied described paragraphs := by
  induction paragraphs generalizing weighed marked varied described with
  | nil => rfl
  | cons paragraph rest induction =>
      -- Three of the readings pass the paragraph by.
      have passed {wanted own : Kind} (isOwn : kind paragraph = own) (other : own ≠ wanted) :
          ofKind wanted (paragraph :: rest) = ofKind wanted rest :=
        ofKind_cons_of_ne (isOwn ▸ other) rest
      rw [readApart]
      cases contributes paragraph with
      | markup isMarkup markup taken =>
          rw [absorbAll_cons (taken _), ofKind_cons_self isMarkup, absorbAll_cons (taken marked),
            passed isMarkup (by decide), passed isMarkup (by decide), passed isMarkup (by decide)]
          exact induction weighed { marked with markup := markup } varied described
      | variants isVariants more taken =>
          rw [absorbAll_cons (taken _), ofKind_cons_self isVariants, absorbAll_cons (taken varied),
            passed isVariants (by decide), passed isVariants (by decide),
            passed isVariants (by decide)]
          exact induction weighed marked { varied with variants := varied.variants ++ more }
            described
      | prose isProse taken =>
          rw [absorbAll_cons (taken _), ofKind_cons_self isProse, absorbAll_cons (taken described),
            passed isProse (by decide), passed isProse (by decide), passed isProse (by decide),
            describe_assemble]
          exact induction weighed marked varied (described.describe paragraph)
      | weight isWeight value taken =>
          rw [absorbAll, taken, ofKind_cons_self isWeight, absorbAll, taken,
            passed isWeight (by decide), passed isWeight (by decide), passed isWeight (by decide)]
          cases Weight.parse value with
          | error fault => rfl
          | ok weight => exact induction { weighed with weight := weight } marked varied described

/-- Each kind of paragraph is read as if it stood alone. -/
theorem absorbAll_eq_readApart (entry : Entry) (paragraphs : List Paragraph) :
    entry.absorbAll paragraphs = readApart entry entry entry entry paragraphs :=
  absorbAll_assemble entry entry entry entry paragraphs

/-! ## Reordered paragraphs -/

/-- Two lists of paragraphs that hold the same ones of each kind in the same order. -/
def AgreeByKind (body reordered : List Paragraph) : Prop :=
  ∀ wanted, ofKind wanted body = ofKind wanted reordered

namespace AgreeByKind

variable {body reordered : List Paragraph}

theorem append (agree : AgreeByKind body reordered) (more : List Paragraph) :
    AgreeByKind (body ++ more) (reordered ++ more) := by
  intro wanted
  rw [ofKind_append, ofKind_append, agree wanted]

theorem absorbAll_eq (agree : AgreeByKind body reordered) (entry : Entry) :
    entry.absorbAll body = entry.absorbAll reordered := by
  rw [absorbAll_eq_readApart, absorbAll_eq_readApart, readApart, readApart]
  simp only [agree _]

theorem ofBody_eq (agree : AgreeByKind body reordered) (reference : Text) (header : Paragraph) :
    ofBody reference (header :: body) = ofBody reference (header :: reordered) :=
  agree.absorbAll_eq _

theorem ofParagraphs_eq (agree : AgreeByKind body reordered) (header : Paragraph)
    (below : List Paragraph) :
    ofParagraphs (header :: body) below = ofParagraphs (header :: reordered) below := by
  induction below generalizing body reordered with
  | nil => rfl
  | cons paragraph rest induction =>
      rw [ofParagraphs, ofParagraphs]
      cases closing? paragraph with
      | none => exact induction (agree.append [paragraph])
      | some reference =>
          dsimp only
          rw [agree.ofBody_eq]

theorem unclosed (agree : AgreeByKind body reordered)
    (unclosed : ∀ paragraph ∈ body, closing? paragraph = none) :
    ∀ paragraph ∈ reordered, closing? paragraph = none := by
  intro paragraph member
  have inKind : paragraph ∈ ofKind (kind paragraph) reordered :=
    List.mem_filter.mpr ⟨member, decide_eq_true rfl⟩
  rw [← agree] at inKind
  exact unclosed paragraph (List.mem_filter.mp inKind).1

end AgreeByKind

/-- The paragraphs between a header and its reference can be put into any order that keeps the order
within each kind: the entries are the same, and so is the fault. What stands above is an entry of
its own, or nothing; what stands below starts with the reference. -/
theorem ofComment_reordered {comment other : Text} {above body reordered below : List Paragraph}
    {header : Paragraph}
    (written : Paragraph.ofText comment = above ++ (header :: body ++ below))
    (rewritten : Paragraph.ofText other = above ++ (header :: reordered ++ below))
    (complete : leftOpen [] above = [])
    (unclosed : ∀ paragraph ∈ header :: body, closing? paragraph = none)
    (agree : AgreeByKind body reordered) : ofComment comment = ofComment other := by
  have otherUnclosed : ∀ paragraph ∈ header :: reordered, closing? paragraph = none := by
    rw [List.forall_mem_cons] at unclosed ⊢
    exact ⟨unclosed.1, agree.unclosed unclosed.2⟩
  rw [ofComment, written, ofParagraphs_append_eq_thenRead, complete, ofParagraphs_append unclosed,
    ofComment, rewritten, ofParagraphs_append_eq_thenRead, complete,
    ofParagraphs_append otherUnclosed]
  exact congrArg (thenRead _) (agree.ofParagraphs_eq header below)

/-- Markup, a weight and modifiers are each given twice, between paragraphs that start with flag
words. -/
def mixedBody (first second : Text) : List Paragraph :=
  [[".big - Big".toList], ["Markup: <a>".toList], ["Deprecated: old".toList],
    ["Weight: ".toList ++ first], ["Markup:".toList, "<b>".toList], ["More.".toList],
    ["Weight: ".toList ++ second], [":hover - Lit".toList, "  up".toList],
    ["Experimental:".toList]]

def sortedBody (first second : Text) : List Paragraph :=
  [["Weight: ".toList ++ first], ["Weight: ".toList ++ second], [".big - Big".toList],
    [":hover - Lit".toList, "  up".toList], ["Deprecated: old".toList], ["More.".toList],
    ["Experimental:".toList], ["Markup: <a>".toList], ["Markup:".toList, "<b>".toList]]

def aboveBody : List Paragraph := [["Links".toList], ["Styleguide 1".toList]]

/-- A comment of two entries, the second with the given paragraphs below its header. -/
def commentAround (body : List Paragraph) : Text :=
  List.intercalate "\n\n".toList
    ((aboveBody ++ ["Button".toList] :: body ++ [["Styleguide 2".toList]]).map Paragraph.text)

theorem ofComment_mixedBody :
    AgreeByKind (mixedBody "7".toList "2".toList) (sortedBody "7".toList "2".toList) ∧
      ofComment (commentAround (mixedBody "7".toList "2".toList)) =
        .ok [{ header := "Links".toList, reference := "1".toList },
          { header := "Button".toList
            description := "old\n\nMore.".toList
            variants := [⟨".big".toList, "Big".toList⟩, ⟨":hover".toList, "Lit up".toList⟩]
            deprecated := true
            experimental := true
            reference := "2".toList
            markup := some "<b>".toList
            weight := ⟨2, by decide, by decide⟩ }] ∧
      AgreeByKind (mixedBody "x".toList "y".toList) (sortedBody "x".toList "y".toList) ∧
      ofComment (commentAround (mixedBody "x".toList "y".toList)) =
        .error (.invalidWeight "x".toList) := by
  have agree (first second : Text) :
      AgreeByKind (mixedBody first second) (sortedBody first second) := by
    intro wanted
    cases wanted <;> rfl
  have written : ∀ body ∈ [mixedBody "7".toList "2".toList, sortedBody "7".toList "2".toList,
      mixedBody "x".toList "y".toList, sortedBody "x".toList "y".toList],
      Paragraph.ofText (commentAround body) =
        aboveBody ++ (["Button".toList] :: body ++ [["Styleguide 2".toList]]) := by decide
  refine ⟨agree _ _, ?_, agree _ _, ?_⟩
  · rw [ofComment_reordered (written _ (by decide)) (written _ (by decide)) rfl (by decide)
      (agree "7".toList "2".toList)]
    rfl
  · rw [ofComment_reordered (written _ (by decide)) (written _ (by decide)) rfl (by decide)
      (agree "x".toList "y".toList)]
    rfl

end Entry

end StyleCatalog
