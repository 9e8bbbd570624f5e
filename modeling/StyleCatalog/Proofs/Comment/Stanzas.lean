import StyleCatalog.Proofs.Comment.CleanParagraphs
import StyleCatalog.Proofs.Comment.Runs

/-! # Stanzas

Blank lines cut a comment into stanzas. No parameter and no paragraph goes on over a blank line, so
each stanza adds its own parameters and its own paragraphs to those of the comment, wherever it
stands.
-/

namespace StyleCatalog

open Text

/-- The runs of lines that are not blank, as they are written. -/
def stanzas (lines : List Text) : List (List Text) :=
  (lines.splitOnP isBlankLine).filter fun stanza => !stanza.isEmpty

theorem stanzas_of_solid {lines : List Text}
    (solid : ∀ line ∈ lines, line.isBlankLine = false) :
    stanzas lines = if lines.isEmpty then [] else [lines] := by
  rw [stanzas, List.splitOnP_eq_singleton solid]
  cases lines <;> rfl

theorem stanzas_append_blank {blank : Text} (isBlank : blank.isBlankLine = true)
    (before after : List Text) :
    stanzas (before ++ blank :: after) = stanzas before ++ stanzas after := by
  rw [stanzas, List.splitOnP_append_cons before after isBlank, List.filter_append, stanzas, stanzas]

/-- Lines that are not blank, and after them a blank one and more lines, again and again. -/
@[elab_as_elim]
theorem stanza_induction {motive : List Text → Prop}
    (solid : ∀ lines, (∀ line ∈ lines, line.isBlankLine = false) → motive lines)
    (parted : ∀ before blank after, (∀ line ∈ before, line.isBlankLine = false) →
      blank.isBlankLine = true → motive after → motive (before ++ blank :: after))
    (lines : List Text) : motive lines := by
  have grown (before : List Text) (beforeSolid : ∀ line ∈ before, line.isBlankLine = false) :
      motive (before ++ lines) := by
    induction lines generalizing before with
    | nil => exact solid _ (by rwa [List.append_nil])
    | cons line rest induction =>
        cases blank : line.isBlankLine with
        | true => exact parted before line rest beforeSolid blank (induction [] (by simp))
        | false =>
            have longer := induction (before ++ [line])
              (List.forall_mem_append.mpr ⟨beforeSolid, List.forall_mem_singleton.mpr blank⟩)
            rwa [List.append_assoc] at longer
  exact grown [] (List.forall_mem_nil _)

theorem stanza_of_mem {lines stanza : List Text} (member : stanza ∈ stanzas lines) :
    stanza ⊆ lines ∧ ∀ line ∈ stanza, line.isBlankLine = false := by
  induction lines using stanza_induction with
  | solid lines solid =>
      rw [stanzas_of_solid solid] at member
      split at member
      · cases member
      · rw [List.mem_singleton.mp member]
        exact ⟨List.Subset.refl _, solid⟩
  | parted before blank after solid isBlank induction =>
      rw [stanzas_append_blank isBlank, stanzas_of_solid solid, List.mem_append] at member
      rcases member with first | later
      · split at first
        · cases first
        · rw [List.mem_singleton.mp first]
          exact ⟨List.subset_append_left _ _, solid⟩
      · rcases induction later with ⟨within, stanzaSolid⟩
        refine ⟨?_, stanzaSolid⟩
        have inAfter := List.Subset.trans within (List.subset_cons_self blank after)
        exact List.Subset.trans inAfter (List.subset_append_right before _)

/-- What is read of each part that a blank line separates from the other is read stanza by
stanza. -/
theorem eq_flatMap_stanzas {β : Type} (read : List Text → List β) (empty : read [] = [])
    (parts : ∀ before after : List Text, ∀ blank : Text, blank.isBlankLine = true →
      read (before ++ blank :: after) = read before ++ read after) (lines : List Text) :
    read lines = (stanzas lines).flatMap read := by
  have whole {lines : List Text} (solid : ∀ line ∈ lines, line.isBlankLine = false) :
      read lines = (stanzas lines).flatMap read := by
    rw [stanzas_of_solid solid]
    cases lines with
    | nil => exact empty
    | cons line rest => exact (List.flatMap_singleton _ _).symm
  induction lines using stanza_induction with
  | solid lines solid => exact whole solid
  | parted before blank after solid isBlank induction =>
      rw [parts before after blank isBlank, stanzas_append_blank isBlank, List.flatMap_append,
        ← whole solid, ← induction]

/-! ## Interleaved stanzas -/

/-- The third list holds the items of the first two, those of each in their order. -/
inductive Interleaves {α : Type} : List α → List α → List α → Prop
  | nil : Interleaves [] [] []
  | left {item : α} {first second woven : List α} (rest : Interleaves first second woven) :
      Interleaves (item :: first) second (item :: woven)
  | right {item : α} {first second woven : List α} (rest : Interleaves first second woven) :
      Interleaves first (item :: second) (item :: woven)

namespace Interleaves

variable {α β : Type} {first second woven : List α} {read : α → List β}

theorem swap (interleaves : Interleaves first second woven) : Interleaves second first woven := by
  induction interleaves with
  | nil => exact .nil
  | left rest induction => exact .right induction
  | right rest induction => exact .left induction

theorem subset_right (interleaves : Interleaves first second woven) : second ⊆ woven := by
  induction interleaves with
  | nil => exact List.Subset.refl _
  | left rest induction => exact List.Subset.trans induction (List.subset_cons_self _ _)
  | right rest induction => exact List.cons_subset_cons _ induction

/-- Items that nothing is read from can be left out. -/
theorem flatMap_eq (interleaves : Interleaves first second woven)
    (silent : ∀ item ∈ second, read item = []) : woven.flatMap read = first.flatMap read := by
  induction interleaves with
  | nil => rfl
  | left rest induction => rw [List.flatMap_cons, List.flatMap_cons, induction silent]
  | right rest induction =>
      rw [List.forall_mem_cons] at silent
      rw [List.flatMap_cons, silent.1, List.nil_append, induction silent.2]

end Interleaves

/-! ## Reading stanza by stanza -/

theorem Paragraph.collect_append_blank {blank : Text} (isBlank : blank.isBlankLine = true)
    (current : Paragraph) (before after : List Text) :
    collect current (before ++ blank :: after) = collect current before ++ collect [] after := by
  induction before generalizing current with
  | nil => exact collect_blank isBlank current after
  | cons line rest induction =>
      rw [List.cons_append]
      cases lineBlank : line.isBlankLine with
      | true =>
          rw [collect_blank lineBlank, collect_blank lineBlank, induction, List.append_assoc]
      | false => rw [collect_solid lineBlank, collect_solid lineBlank, induction]

namespace ParameterRun

variable {marker : Text}

theorem opening?_of_isBlankLine {line : Text} (blank : line.isBlankLine = true) :
    opening? marker line = none := by
  have nothing : opening? marker [] = none := by
    rw [opening?_eq_none_iff]
    intro name value opens
    have shape := congrArg List.length opens.shape
    simp [trimStart] at shape
  exact (opening?_append_eq_none_iff blank).mpr nothing

/-- A blank line ends the parameter above it. -/
theorem cut_append_blank {blank : Text} (isBlank : blank.isBlankLine = true)
    (opened : Option (Text × Text × List Text)) (before after : List Text) :
    cut marker opened (before ++ blank :: after) =
      cut marker opened before ++ .kept blank :: cut marker none after := by
  have plain : opening? marker blank = none := opening?_of_isBlankLine isBlank
  induction before generalizing opened with
  | nil =>
      rcases opened with _ | ⟨name, value, below⟩
      · exact cut_kept _ plain
      · exact cut_closing _ plain isBlank
  | cons line rest induction =>
      rw [List.cons_append]
      cases opens : opening? marker line with
      | some found =>
          rw [cut_opening _ _ opens, cut_opening _ _ opens, induction, List.append_assoc]
      | none =>
          rcases opened with _ | ⟨name, value, below⟩
          · rw [cut_kept _ opens, cut_kept _ opens, induction, List.cons_append]
          · cases lineBlank : line.isBlankLine with
            | true =>
                rw [cut_closing _ opens lineBlank, cut_closing _ opens lineBlank, induction]
                rfl
            | false => rw [cut_below _ opens lineBlank, cut_below _ opens lineBlank, induction]

/-- Nothing is kept of a parameter and the lines it goes on over. -/
theorem kept_cut_of_solid {lines : List Text} (solid : ∀ line ∈ lines, line.isBlankLine = false)
    (run : Text × Text × List Text) : (cut marker (some run) lines).filterMap toKept? = [] := by
  induction lines generalizing run with
  | nil => rfl
  | cons line rest induction =>
      rw [List.forall_mem_cons] at solid
      cases opens : opening? marker line with
      | some found =>
          rw [cut_opening _ _ opens, List.filterMap_append, induction solid.2]
          rfl
      | none => rw [cut_below _ opens solid.1, induction solid.2]

/-- A tab that is expanded stands before the marker or in the value. -/
theorem Opens.of_expanded {line name value : Text} (opens : Opens marker line name value)
    (noTab : '\t' ∉ marker) : Opens marker (expandTabs line) name (expandTabs value) := by
  have noTabInName : '\t' ∉ name := fun member => absurd (opens.inName '\t' member) (by decide)
  refine ⟨?_, opens.named, opens.inName⟩
  rw [trimStart_expandTabs, opens.shape, expandTabs_append, expandTabs_append,
    expandTabs_of_not_mem noTab, expandTabs_of_not_mem noTabInName, expandTabs_cons (by decide)]

end ParameterRun

open ParameterRun

section Comments

variable {marker comment : Text}

/-- The paragraphs that a stanza leaves when its parameters are taken out. -/
def keptParagraphs (marker : Text) (stanza : List Text) : List Paragraph :=
  Paragraph.collect [] ((cut marker none (stanza.map expandTabs)).filterMap toKept?)

theorem keptParagraphs_of_opens (noTab : '\t' ∉ marker) {line name value : Text}
    {below : List Text} (opens : Opens marker line name value)
    (solid : ∀ other ∈ below, other.isBlankLine = false) :
    keptParagraphs marker (line :: below) = [] := by
  have solidLeft : ∀ other ∈ below.map expandTabs, other.isBlankLine = false := by
    rw [List.forall_mem_map]
    exact fun other member => (isBlankLine_expandTabs other).trans (solid other member)
  rw [keptParagraphs, List.map_cons,
    cut_opening _ _ (opening?_eq_some_iff.mpr (opens.of_expanded noTab)), Option.map_none,
    Option.toList_none, List.nil_append, kept_cut_of_solid solidLeft]
  rfl

theorem ofText_cleanComment_eq_flatMap (clean : ∀ line ∈ comment.lines, '\r' ∉ line) :
    Paragraph.ofText (cleanComment marker comment) =
      Paragraph.toMargin ((stanzas comment.lines).flatMap (keptParagraphs marker)) := by
  rw [ofText_cleanComment, ParameterRun.ofText, lines_normalizeBlanks clean]
  apply congrArg Paragraph.toMargin
  apply eq_flatMap_stanzas (keptParagraphs marker) rfl
  intro before after blank isBlank
  have blankLeft : (expandTabs blank).isBlankLine = true :=
    (isBlankLine_expandTabs blank).trans isBlank
  rw [keptParagraphs, List.map_append, List.map_cons, cut_append_blank blankLeft,
    List.filterMap_append]
  exact Paragraph.collect_append_blank blankLeft [] _ _

theorem parameters_eq_flatMap (clean : ∀ line ∈ comment.lines, '\r' ∉ line) :
    parameters marker comment =
      (stanzas comment.lines).flatMap fun stanza => parameters marker (unlines stanza) := by
  have byStanza : (cut marker none comment.lines).filterMap toParameter? =
      (stanzas comment.lines).flatMap fun stanza =>
        (cut marker none stanza).filterMap toParameter? := by
    apply eq_flatMap_stanzas (fun lines => (cut marker none lines).filterMap toParameter?) rfl
    intro before after blank isBlank
    rw [cut_append_blank isBlank, List.filterMap_append]
    rfl
  rw [parameters, ParameterRun.ofText, byStanza]
  apply List.flatMap_congr
  intro stanza member
  rcases stanza_of_mem member with ⟨within, solid⟩
  have inline : ∀ line ∈ stanza, IsInline line := fun line inStanza =>
    ⟨clean line (within inStanza), newline_not_mem_lines comment line (within inStanza)⟩
  have some : ∀ line ∈ stanza, line ≠ [] := by
    rintro line inStanza rfl
    cases solid [] inStanza
  rw [parameters, ParameterRun.ofText, lines_unlines inline some]

end Comments

end StyleCatalog
