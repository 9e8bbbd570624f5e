import StyleCatalog.Proofs.Comment.Stanzas
import StyleCatalog.Proofs.Section.Building

/-! # Parameters in paragraphs of their own

A parameter paragraph can stand anywhere in a comment: the section is that of the comment without
it, with its parameters merged in, `build_interleaved`.
-/

namespace StyleCatalog

open Text ParameterRun

/-- A stanza whose first line opens a parameter. -/
def OpensParameter (marker : Text) (stanza : List Text) : Prop :=
  ∃ line below name value, stanza = line :: below ∧ Opens marker line name value

/-- What is built, with more parameters merged into the section if there is one. -/
def mergeInto (more : List Parameter) :
    Option Section × List Notice → Except CommentError (Option Section × List Notice)
  | (none, notices) => .ok (none, notices)
  | (some s, notices) =>
    (s.mergeAll more).map fun merged => (some merged.1, notices ++ merged.2)

section Paragraphs

variable {marker comment bare : Text} {paragraphs : List (List Text)}

theorem ofComment_interleaved (noTab : '\t' ∉ marker)
    (clean : ∀ line ∈ comment.lines, '\r' ∉ line) (bareClean : ∀ line ∈ bare.lines, '\r' ∉ line)
    (opens : ∀ stanza ∈ paragraphs, OpensParameter marker stanza)
    (woven : Interleaves (stanzas bare.lines) paragraphs (stanzas comment.lines)) :
    Entry.ofComment (cleanComment marker comment) = Entry.ofComment (cleanComment marker bare) := by
  have silent : ∀ stanza ∈ paragraphs, keptParagraphs marker stanza = [] := by
    intro stanza member
    have solid := (stanza_of_mem (woven.subset_right member)).2
    rcases opens stanza member with ⟨line, below, name, value, rfl, opening⟩
    exact keptParagraphs_of_opens noTab opening (List.forall_mem_cons.mp solid).2
  rw [Entry.ofComment, ofText_cleanComment_eq_flatMap clean, woven.flatMap_eq silent,
    ← ofText_cleanComment_eq_flatMap bareClean, Entry.ofComment]

theorem parameters_interleaved (clean : ∀ line ∈ comment.lines, '\r' ∉ line)
    (bareClean : ∀ line ∈ bare.lines, '\r' ∉ line) (bareHasNone : parameters marker bare = [])
    (woven : Interleaves (stanzas bare.lines) paragraphs (stanzas comment.lines)) :
    parameters marker comment =
      paragraphs.flatMap fun stanza => parameters marker (unlines stanza) := by
  rw [parameters_eq_flatMap bareClean, List.flatMap_eq_nil_iff] at bareHasNone
  rw [parameters_eq_flatMap clean, woven.swap.flatMap_eq bareHasNone]

end Paragraphs

/-- Let a comment hold, between blank lines and in any order, the stanzas of another comment that
opens no parameter and stanzas that start with parameters. Building it is building the other comment
and merging these parameters: the same fault or no section if that gives none, else the same section
or the fault of the first bad parameter. -/
theorem Builder.build_interleaved {builder : Builder} {comment bare : Text}
    {paragraphs : List (List Text)} (noTab : '\t' ∉ builder.marker)
    (clean : ∀ line ∈ comment.lines, '\r' ∉ line) (bareClean : ∀ line ∈ bare.lines, '\r' ∉ line)
    (own : ∀ line ∈ bare.lines, ∀ name value, ¬Opens builder.marker line name value)
    (opens : ∀ stanza ∈ paragraphs, OpensParameter builder.marker stanza)
    (woven : Interleaves (stanzas bare.lines) paragraphs (stanzas comment.lines))
    (code : Option Text) :
    builder.build ⟨comment, code⟩ =
      builder.build ⟨bare, code⟩ >>= mergeInto
        (paragraphs.flatMap fun stanza => parameters builder.marker (unlines stanza)) := by
  have bareHasNone : parameters builder.marker bare = [] :=
    parameters_of_plain fun line member => opening?_eq_none_iff.mpr (own line member)
  rw [build, build, ofComment_interleaved noTab clean bareClean opens woven, bareHasNone,
    parameters_interleaved clean bareClean bareHasNone woven]
  cases Entry.ofComment (cleanComment builder.marker bare) with
  | error fault => rfl
  | ok entries =>
      cases entries with
      | nil => rfl
      | cons entry others =>
          change _ = mergeInto _ (some _, entryNotices (entry :: others) ++ [])
          rw [List.append_nil]
          rfl

/-- A header that is indented, markup over two lines, and parameters before, between and after them.
The second of the last three goes on over a line that is indented by a tab. -/
def panelHeader : List Text := ["  Panel".toList]

def panelMarkup : List Text := ["Markup: <a>".toList, "\tb".toList]

def panelReference : List Text := ["Styleguide 4.1".toList]

def themeStanza : List Text := ["\tsg-theme: \tdark".toList]

def wrapperStanza (weight : Text) : List Text :=
  ["sg-wrapper:".toList, "\t<p>".toList, "sg-weight: ".toList ++ weight]

def panelComment : Text :=
  List.intercalate "\n\n".toList ([panelHeader, panelMarkup, panelReference].map unlines)

/-- The panel with its parameters; blank lines are written in different ways. -/
def dressedComment (weight : Text) : Text :=
  unlines themeStanza ++ "\n \n".toList ++ unlines panelHeader ++ "\n\n\t\n".toList ++
    unlines panelMarkup ++ "\n\r\n".toList ++ unlines (wrapperStanza weight) ++ "\n\n".toList ++
    unlines panelReference

def panelSection : Section where
  header := "Panel".toList
  reference := "4.1".toList
  markup := some "<a>\n    b".toList

theorem build_dressedComment :
    (∀ weight ∈ ["3".toList, "x".toList],
      Interleaves (stanzas panelComment.lines) [themeStanza, wrapperStanza weight]
        (stanzas (dressedComment weight).lines)) ∧
      plainBuilder.build ⟨panelComment, none⟩ = .ok (some panelSection, []) ∧
      plainBuilder.build ⟨dressedComment "3".toList, none⟩ =
        .ok (some { panelSection with
          weight := ⟨3, by decide, by decide⟩
          extras := (Extras.empty.insert "theme".toList "dark".toList).insert
            "wrapper".toList "<p>".toList }, []) ∧
      plainBuilder.build ⟨dressedComment "x".toList, none⟩ =
        .error (.invalidWeight "x".toList) := by
  have bareStanzas : stanzas panelComment.lines = [panelHeader, panelMarkup, panelReference] := by
    decide
  have dressedStanzas : ∀ weight ∈ ["3".toList, "x".toList],
      stanzas (dressedComment weight).lines =
        [themeStanza, panelHeader, panelMarkup, wrapperStanza weight, panelReference] := by
    decide
  have woven : ∀ weight ∈ ["3".toList, "x".toList],
      Interleaves (stanzas panelComment.lines) [themeStanza, wrapperStanza weight]
        (stanzas (dressedComment weight).lines) := by
    intro weight member
    rw [bareStanzas, dressedStanzas weight member]
    exact .right (.left (.left (.right (.left .nil))))
  have opens (weight : Text) : ∀ stanza ∈ [themeStanza, wrapperStanza weight],
      OpensParameter defaultMarker stanza := by
    rw [List.forall_mem_cons, List.forall_mem_singleton]
    exact ⟨⟨_, [], _, _, rfl, opening?_eq_some_iff.mp rfl⟩,
      ⟨_, _, _, _, rfl, opening?_eq_some_iff.mp rfl⟩⟩
  have plain : ∀ line ∈ panelComment.lines, opening? defaultMarker line = none := by decide
  have clean : ∀ weight ∈ ["3".toList, "x".toList], ∀ line ∈ (dressedComment weight).lines,
      '\r' ∉ line := by decide
  have merged (weight : Text) (member : weight ∈ ["3".toList, "x".toList]) :
      plainBuilder.build ⟨dressedComment weight, none⟩ =
        plainBuilder.build ⟨panelComment, none⟩ >>= mergeInto
          ([themeStanza, wrapperStanza weight].flatMap fun stanza =>
            parameters plainBuilder.marker (unlines stanza)) :=
    Builder.build_interleaved (by decide) (clean weight member) (by decide)
      (fun line inPanel => opening?_eq_none_iff.mp (plain line inPanel)) (opens weight)
      (woven weight member) none
  have panel : plainBuilder.build ⟨panelComment, none⟩ = .ok (some panelSection, []) := rfl
  refine ⟨woven, panel, ?_, ?_⟩
  · rw [merged _ (by decide), panel]
    rfl
  · rw [merged _ (by decide), panel]
    rfl

end StyleCatalog
