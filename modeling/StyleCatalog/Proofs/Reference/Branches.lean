import StyleCatalog.Proofs.Reference.Resolution
import StyleCatalog.Proofs.Text.Lowering
import StyleCatalog.Proofs.Text.Replacing

/-! # Branches of the hierarchy

A reference that goes on from another by a full stop has the steps of the two, one after the other,
unless a capital sigma on one side of the stop is lowered by what stands on the other. Where the
first steps are kept, the section is sorted and numbered inside the branch of the other:
`inBranch_iff`.
-/

namespace StyleCatalog

open Std Text

/-! ## The steps on both sides of a full stop -/

namespace Reference

/-- Lowered text with full stops for its dashes. -/
def withoutDashes (lowered : Text) : Text := replaceAll dash ['.'] lowered

theorem spares_dash : Spares plainSigma dash := by
  intro mark member c
  have marks : mark = ' ' ∨ mark = '-' ∨ mark = ' ' := by simpa [dash] using member
  have notPlain : 'σ' ≠ mark := by rcases marks with rfl | rfl | rfl <;> decide
  have notFinal : 'ς' ≠ mark := by rcases marks with rfl | rfl | rfl <;> decide
  rw [plainSigma]
  split
  · rename_i final
    rw [final]
    exact iff_of_false notPlain notFinal
  · rfl

theorem length_withoutDashes {t u : Text} (alike : t.map plainSigma = u.map plainSigma) :
    (withoutDashes t).length = (withoutDashes u).length :=
  spares_dash.length_replaceAll (by decide) alike

theorem eq_of_withoutDashes_eq {t u : Text} (alike : t.map plainSigma = u.map plainSigma)
    (same : withoutDashes t = withoutDashes u) : t = u :=
  spares_dash.eq_of_replaceFrom_eq alike rfl same

theorem normalize_append_dot (a b : Text) :
    normalize (a ++ '.' :: b) =
      withoutDashes (lowerBetween [] a ('.' :: b)) ++
        '.' :: withoutDashes (lowerFrom ('.' :: a.reverse) b) := by
  have dot : lowerFrom a.reverse ('.' :: b) = '.' :: lowerFrom ('.' :: a.reverse) b := rfl
  rw [normalize, lower, lowerFrom_append, List.append_nil, dot,
    replaceAll_append_cons (by decide)]
  rfl

theorem chunks_append_dot (a b : Text) :
    chunks (a ++ '.' :: b) =
      splitAtChar '.' (withoutDashes (lowerBetween [] a ('.' :: b))) ++
        splitAtChar '.' (withoutDashes (lowerFrom ('.' :: a.reverse) b)) := by
  rw [chunks, normalize_append_dot, splitAtChar_append_cons]

/-- What stands before the full stop has the letters that it has alone, the form of a sigma
aside. -/
theorem alike_before_dot (a b : Text) :
    (lowerBetween [] a ('.' :: b)).map plainSigma = a.lower.map plainSigma := by
  rw [lower, lowerFrom_eq_lowerBetween]
  exact map_plainSigma_lowerBetween _ _ _ _ a

theorem alike_after_dot (a b : Text) :
    (lowerFrom ('.' :: a.reverse) b).map plainSigma = b.lower.map plainSigma := by
  rw [lower, lowerFrom_eq_lowerBetween, lowerFrom_eq_lowerBetween]
  exact map_plainSigma_lowerBetween _ _ _ _ b

theorem exists_steps_of_lowered_alone {a b : Text}
    (alone : lowerBetween [] a ('.' :: b) = lower a) :
    ∃ step rest, chunks (a ++ '.' :: b) = chunks a ++ step :: rest := by
  have some := splitAtChar_ne_nil '.' (withoutDashes (lowerFrom ('.' :: a.reverse) b))
  rcases List.exists_cons_of_ne_nil some with ⟨step, rest, shape⟩
  refine ⟨step, rest, ?_⟩
  rw [chunks_append_dot, alone, shape]
  rfl

/-- The steps of a reference begin those of its extension exactly if it is lowered alone as it is
there. -/
theorem chunks_isPrefix_append_dot_iff (a b : Text) :
    chunks a <+: chunks (a ++ '.' :: b) ↔ (endsInSigma a && meetsCased b) = false := by
  rw [← lowerBetween_before_dot_iff]
  constructor
  · intro within
    have joined := intercalate_isPrefix ['.'] within
    change join (chunks a) <+: join (chunks (a ++ '.' :: b)) at joined
    rw [join_chunks, join_chunks, normalize_append_dot] at joined
    have lengths := length_withoutDashes (alike_before_dot a b)
    have shorter := List.prefix_of_prefix_length_le joined (List.prefix_append _ _) lengths.ge
    exact eq_of_withoutDashes_eq (alike_before_dot a b) (shorter.eq_of_length lengths.symm).symm
  · intro alone
    rcases exists_steps_of_lowered_alone alone with ⟨step, rest, steps⟩
    rw [steps]
    exact List.prefix_append _ _

theorem chunks_append_dot_iff (a b : Text) :
    chunks (a ++ '.' :: b) = chunks a ++ chunks b ↔
      (endsInSigma a && meetsCased b) = false ∧
        (meetsCased a.reverse && startsWithSigma b) = false := by
  rw [← lowerBetween_before_dot_iff, ← lowerFrom_after_dot_iff]
  constructor
  · intro same
    have apart : chunks a ++ chunks b = splitAtChar '.' (normalize a ++ '.' :: normalize b) :=
      (splitAtChar_append_cons '.' _ _).symm
    have joined : normalize (a ++ '.' :: b) = normalize a ++ '.' :: normalize b := by
      rw [← intercalate_splitAtChar '.' (normalize a ++ '.' :: normalize b), ← apart, ← same]
      exact (join_chunks _).symm
    rw [normalize_append_dot] at joined
    have parts := List.append_inj joined (length_withoutDashes (alike_before_dot a b))
    exact ⟨eq_of_withoutDashes_eq (alike_before_dot a b) parts.1,
      eq_of_withoutDashes_eq (alike_after_dot a b) (List.cons.inj parts.2).2⟩
  · rintro ⟨before, after⟩
    rw [chunks_append_dot, before, after]
    rfl

/-! ## A branch in the order of chunk lists -/

theorem compareChunks_isLE_of_isPrefix (weights : Weights) {node place : List Chunk}
    (within : node <+: place) : (compareChunks weights node place).isLE := by
  rcases within with ⟨below, rfl⟩
  cases below with
  | nil =>
      rw [compareChunks_eq_eq_iff.mpr (List.append_nil node).symm]
      rfl
  | cons step rest =>
      rw [compareChunks, compareBelow_self_append_cons]
      rfl

/-- What comes after a node without being below it comes after all that is below it. -/
theorem compareChunks_append_lt {weights : Weights} {node place : List Chunk}
    (less : compareChunks weights node place = .lt) (outside : ¬node <+: place)
    (below : List Chunk) : compareChunks weights (node ++ below) place = .lt := by
  rcases exists_split_of_compareBelow_lt less with
    ⟨shared, y, ys, rfl, rfl | ⟨x, xs, rfl, before⟩⟩
  · exact absurd (List.prefix_append _ _) outside
  · rw [List.append_assoc, List.cons_append]
    exact compareChunks_lt_of_compareSiblings before _ _

/-- Nothing outside a branch comes between its node and what is below. -/
theorem isPrefix_of_between {weights : Weights} {node place below : List Chunk}
    (less : compareChunks weights node place = .lt)
    (order : (compareChunks weights place (node ++ below)).isLE) : node <+: place := by
  by_contra outside
  have after := compareChunks_append_lt less outside below
  rw [OrientedCmp.gt_of_lt after] at order
  cases order

end Reference

/-! ## A branch in the display order -/

/-- A list is cut at the first item that lacks a property, if whatever may stand before an item with
the property has it too. -/
theorem exists_split_of_pairwise {α : Type} {R : α → α → Prop} {p : α → Prop} {items : List α}
    (sorted : items.Pairwise R) (closed : ∀ a b, R a b → p b → p a) :
    ∃ low high, items = low ++ high ∧ (∀ a ∈ low, p a) ∧ ∀ a ∈ high, ¬p a := by
  induction sorted with
  | nil => exact ⟨[], [], rfl, List.forall_mem_nil _, List.forall_mem_nil _⟩
  | @cons first rest before _ induction =>
      by_cases holds : p first
      · rcases induction with ⟨low, high, rfl, lows, highs⟩
        exact ⟨first :: low, high, rfl, List.forall_mem_cons.mpr ⟨holds, lows⟩, highs⟩
      · refine ⟨[], first :: rest, rfl, List.forall_mem_nil _, List.forall_mem_cons.mpr ⟨holds, ?_⟩⟩
        exact fun other member later => holds (closed first other (before other member) later)

open Reference

/-- Sections around and in the branch of a node: those before it, those at the node itself, those
below it and those after it. -/
structure IsBranch (node : List Chunk) (before own below after : List Section) : Prop where
  own : ∀ u ∈ own, u.chunks = node
  below : ∀ u ∈ below, node <+: u.chunks ∧ u.chunks ≠ node
  outside : ∀ u ∈ before ++ after, ¬node <+: u.chunks

namespace IsBranch

variable {node : List Chunk} {before own below after : List Section} {s : Section}

theorem mem_own (branch : IsBranch node before own below after)
    (member : s ∈ before ++ own ++ below ++ after) (place : s.chunks = node) : s ∈ own := by
  have within : node <+: s.chunks := place ▸ List.prefix_rfl
  simp only [List.mem_append] at member
  rcases member with ((first | atNode) | deeper) | last
  · exact absurd within (branch.outside s (List.mem_append_left _ first))
  · exact atNode
  · exact absurd place (branch.below s deeper).2
  · exact absurd within (branch.outside s (List.mem_append_right _ last))

theorem mem_below (branch : IsBranch node before own below after)
    (member : s ∈ before ++ own ++ below ++ after) (within : node <+: s.chunks)
    (deep : s.chunks ≠ node) : s ∈ below := by
  simp only [List.mem_append] at member
  rcases member with ((first | atNode) | deeper) | last
  · exact absurd within (branch.outside s (List.mem_append_left _ first))
  · exact absurd (branch.own s atNode) deep
  · exact deeper
  · exact absurd within (branch.outside s (List.mem_append_right _ last))

end IsBranch

namespace Section

variable {weights : Weights} {node : List Chunk} {s t : Section}

/-- Whether a section may stand before the end of a branch. -/
def BelongsUpTo (weights : Weights) (node : List Chunk) (s : Section) : Prop :=
  (compareChunks weights s.chunks node).isLE ∨ node <+: s.chunks

theorem BelongsUpTo.of_mayPrecede (belongs : t.BelongsUpTo weights node)
    (order : s.mayPrecede weights t = true) : s.BelongsUpTo weights node := by
  rcases belongs with notLater | ⟨below, shape⟩
  · exact .inl (TransCmp.isLE_trans order notLater)
  · cases place : compareChunks weights s.chunks node with
    | lt => exact .inl (by rw [place]; rfl)
    | eq => exact .inl (by rw [place]; rfl)
    | gt =>
        rw [mayPrecede, ← shape] at order
        exact .inr (isPrefix_of_between (OrientedCmp.lt_of_gt place) order)

theorem not_isPrefix_of_lt (less : compareChunks weights s.chunks node = .lt) :
    ¬node <+: s.chunks := by
  intro within
  have order := compareChunks_isLE_of_isPrefix weights within
  rw [OrientedCmp.gt_of_lt less] at order
  cases order

end Section

/-- The branch of a node is displayed in one piece, the node's own sections first. -/
theorem exists_branch (sections : List Section) (node : List Chunk) :
    ∃ before own below after, sortSections sections = before ++ own ++ below ++ after ∧
      IsBranch node before own below after := by
  have sorted := sortSections_pairwise sections
  generalize Weights.ofSections sections = weights at sorted
  generalize sortSections sections = displayed at sorted
  -- Each cut is made where the sections go past a bound: the branch, the node, what is before it.
  rcases exists_split_of_pairwise sorted fun s t order (belongs : t.BelongsUpTo weights node) =>
    belongs.of_mayPrecede order with ⟨upTo, after, rfl, belong, past⟩
  have sortedUpTo := (List.pairwise_append.mp sorted).1
  rcases exists_split_of_pairwise sortedUpTo fun s t order
      (notLater : (compareChunks weights t.chunks node).isLE) =>
    TransCmp.isLE_trans order notLater with ⟨upToNode, below, rfl, notLater, later⟩
  have sortedUpToNode := (List.pairwise_append.mp sortedUpTo).1
  rcases exists_split_of_pairwise sortedUpToNode fun s t order
      (less : compareChunks weights t.chunks node = .lt) =>
    TransCmp.lt_of_isLE_of_lt order less with ⟨before, own, rfl, less, notLess⟩
  refine ⟨before, own, below, after, rfl, ?_, ?_, ?_⟩
  · intro u member
    have order := notLater u (List.mem_append_right before member)
    cases place : compareChunks weights u.chunks node with
    | lt => exact absurd place (notLess u member)
    | eq => exact compareChunks_eq_eq_iff.mp place
    | gt =>
        rw [place] at order
        cases order
  · intro u member
    refine ⟨?_, fun same => later u member ?_⟩
    · exact (belong u (List.mem_append_right _ member)).resolve_left (later u member)
    · rw [compareChunks_eq_eq_iff.mpr same]
      rfl
  · intro u member
    rcases List.mem_append.mp member with first | last
    · exact Section.not_isPrefix_of_lt (less u first)
    · exact fun within => past u last (.inr within)

/-! ## Extensions of a reference -/

/-- A section is sorted and numbered inside the branch of another. It stands below the other's own
sections in one piece with all that is there; its ranks go on from the other's, and so does its
number, unless the other keeps a number given by hand while its own is counted. -/
structure InBranch (sections : List Section) (s t : Section) : Prop where
  sorted : ∃ before own below after, sortSections sections = before ++ own ++ below ++ after ∧
    IsBranch s.chunks before own below after ∧ s ∈ own ∧ t ∈ below
  ranked : ∃ n more, (Hierarchy.ofSections sections).ranks t.chunks =
    (Hierarchy.ofSections sections).ranks s.chunks ++ n :: more
  numbered : ∀ resolved, resolveSections sections = .ok resolved →
    s.numberedIn (.ofSections sections) ∈ resolved ∧
      t.numberedIn (.ofSections sections) ∈ resolved ∧
      ((s.hasNumericReference = true → t.hasNumericReference = true) →
        ∃ more, (t.numberedIn (.ofSections sections)).reference =
          (s.numberedIn (.ofSections sections)).reference ++ '.' :: more)

theorem numberOf_append {path more : List Nat} (some : path ≠ []) (moreSome : more ≠ []) :
    Numbering.numberOf (path ++ more) =
      Numbering.numberOf path ++ '.' :: Numbering.numberOf more := by
  rw [Numbering.numberOf, List.map_append, intercalate_append ['.']
    (mt List.map_eq_nil_iff.mp some) (mt List.map_eq_nil_iff.mp moreSome)]
  rfl

section Extensions

variable {sections : List Section} {s t : Section} {b : Text}

/-- Text stays text when a reference goes on. -/
theorem hasNumericReference_of_extension (extension : t.reference = s.reference ++ '.' :: b)
    (numeric : t.hasNumericReference = true) : s.hasNumericReference = true := by
  rw [Section.hasNumericReference, isNumericReference, extension, List.all_append,
    Bool.and_eq_true] at numeric
  exact numeric.1

theorem exists_number_of_extension (hierarchy : Hierarchy) {step : Chunk} {rest : List Chunk}
    (steps : t.chunks = s.chunks ++ step :: rest)
    (extension : t.reference = s.reference ++ '.' :: b)
    (byHand : s.hasNumericReference = true → t.hasNumericReference = true) :
    ∃ more, t.finalReference hierarchy = s.finalReference hierarchy ++ '.' :: more := by
  cases kind : s.hasNumericReference with
  | true =>
      rw [Section.finalReference_of_numeric hierarchy kind,
        Section.finalReference_of_numeric hierarchy (byHand kind)]
      exact ⟨b, extension⟩
  | false =>
      have text : t.hasNumericReference = false := by
        rw [Bool.eq_false_iff]
        intro numeric
        rw [hasNumericReference_of_extension extension numeric] at kind
        cases kind
      have ranked : hierarchy.ranks s.chunks ≠ [] :=
        hierarchy.ranks_ne_nil (chunks_ne_nil s.reference)
      rw [Section.finalReference_of_text hierarchy kind,
        Section.finalReference_of_text hierarchy text, steps, hierarchy.ranks_append,
        Hierarchy.ranksBelow, numberOf_append ranked (List.cons_ne_nil _ _)]
      exact ⟨_, rfl⟩

theorem numberedIn_mem_of_resolved {resolved : List Section}
    (success : resolveSections sections = .ok resolved) (member : s ∈ sections) :
    s.numberedIn (.ofSections sections) ∈ resolved := by
  rw [(resolveSections_eq_ok_iff.mp success).2]
  exact List.mem_map_of_mem (mem_sortSections.mpr member)

theorem inBranch_of_steps {step : Chunk} {rest : List Chunk} (sMember : s ∈ sections)
    (tMember : t ∈ sections) (steps : t.chunks = s.chunks ++ step :: rest)
    (extension : t.reference = s.reference ++ '.' :: b) : InBranch sections s t := by
  have within : s.chunks <+: t.chunks := ⟨step :: rest, steps.symm⟩
  have deep : t.chunks ≠ s.chunks := by simp [steps]
  constructor
  · rcases exists_branch sections s.chunks with ⟨before, own, below, after, displayed, branch⟩
    rw [← mem_sortSections, displayed] at sMember tMember
    exact ⟨before, own, below, after, displayed, branch, branch.mem_own sMember rfl,
      branch.mem_below tMember within deep⟩
  · rw [steps, Hierarchy.ranks_append]
    exact ⟨_, _, rfl⟩
  · intro resolved success
    refine ⟨numberedIn_mem_of_resolved success sMember, numberedIn_mem_of_resolved success tMember,
      fun byHand => ?_⟩
    rw [Section.reference_numberedIn, Section.reference_numberedIn]
    exact exists_number_of_extension _ steps extension byHand

/-- An extension is in the branch of the reference that it goes on from exactly if that reference is
lowered as it would be alone. -/
theorem inBranch_iff (sMember : s ∈ sections) (tMember : t ∈ sections)
    (extension : t.reference = s.reference ++ '.' :: b) :
    InBranch sections s t ↔ (endsInSigma s.reference && meetsCased b) = false := by
  constructor
  · intro inBranch
    rcases inBranch.sorted with ⟨before, own, below, after, -, branch, -, inBelow⟩
    have within := (branch.below t inBelow).1
    rwa [Section.chunks, Section.chunks, extension, chunks_isPrefix_append_dot_iff] at within
  · intro apart
    rcases exists_steps_of_lowered_alone ((lowerBetween_before_dot_iff _ _).mpr apart) with
      ⟨step, rest, steps⟩
    rw [← extension] at steps
    exact inBranch_of_steps sMember tMember steps extension

end Extensions

/-- Chunking respects the hierarchy where lowering does. A reference that goes on after a full stop
has the steps of its two parts exactly if no sigma beside the stop is lowered by a letter on the
other side. Its section is in the branch of the first part exactly if no sigma at the end of that
part is. -/
theorem chunks_respect_hierarchy (a b : Text) :
    (chunks (a ++ '.' :: b) = chunks a ++ chunks b ↔
      (endsInSigma a && meetsCased b) = false ∧
        (meetsCased a.reverse && startsWithSigma b) = false) ∧
    ∀ (sections : List Section) (s t : Section), s ∈ sections → t ∈ sections →
      s.reference = a → t.reference = a ++ '.' :: b →
        (InBranch sections s t ↔ (endsInSigma a && meetsCased b) = false) := by
  refine ⟨chunks_append_dot_iff a b, ?_⟩
  rintro sections s t sMember tMember rfl extension
  exact inBranch_iff sMember tMember extension

/-- A dash between blanks parts the sigma from the letter that follows it. -/
def dashedSections : List Section :=
  [{ reference := "ΑΣ - Β".toList }, { reference := "ΓΣ".toList },
    { reference := "ΑΣ - Β.ΓΣ".toList }]

theorem dashedSections_in_branch :
    (chunks ("ΑΣ - Β".toList ++ '.' :: "ΓΣ".toList) =
      chunks "ΑΣ - Β".toList ++ chunks "ΓΣ".toList) ∧
    InBranch dashedSections { reference := "ΑΣ - Β".toList }
      { reference := "ΑΣ - Β.ΓΣ".toList } := by
  have apart : (endsInSigma "ΑΣ - Β".toList && meetsCased "ΓΣ".toList) = false := by
    decide +kernel
  have apartAfter :
      (meetsCased "ΑΣ - Β".toList.reverse && startsWithSigma "ΓΣ".toList) = false := by
    decide +kernel
  have law := chunks_respect_hierarchy "ΑΣ - Β".toList "ΓΣ".toList
  refine ⟨law.1.mpr ⟨apart, apartAfter⟩, ?_⟩
  refine (law.2 dashedSections _ _ ?_ ?_ rfl rfl).mpr apart
  · exact List.mem_cons_self
  · exact List.mem_cons_of_mem _ (List.mem_cons_of_mem _ List.mem_cons_self)

/-- The second reference goes on from the first, but the sigma no longer ends a word there: the full
stop does not part it from the next letter. -/
def sigmaSections : List Section :=
  [{ reference := "ΑΣ".toList, weight := sampleWeight },
    { reference := "ΑΣ.Β".toList }]

def sigmaNumbered : List Section :=
  [{ reference := "1.1".toList, stringReference := some "ΑΣ.Β".toList },
    { reference := "2".toList, stringReference := some "ΑΣ".toList,
      weight := sampleWeight }]

theorem sigma_leaves_branch :
    chunks ("ΑΣ".toList ++ '.' :: "Β".toList) ≠ chunks "ΑΣ".toList ++ chunks "Β".toList ∧
      chunks "ΑΣ".toList = ["ας".toList] ∧
      chunks "ΑΣ.Β".toList = ["ασ".toList, "β".toList] ∧
      resolveSections sigmaSections = .ok sigmaNumbered := by
  have permuted : sigmaSections.Perm sigmaSections.reverse := .swap _ _ _
  refine ⟨by decide +kernel, by decide +kernel, by decide +kernel, ?_⟩
  rw [resolveSections_of_sorted permuted (by decide +kernel) (by decide +kernel)]
  decide +kernel

end StyleCatalog
