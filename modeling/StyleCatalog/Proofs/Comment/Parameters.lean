import StyleCatalog.Proofs.Comment.Blanks
import StyleCatalog.Proofs.Text.Markers

/-! # Parameters before and after normalizing

The parameters of a comment are read from the comment as it was written and taken out of it once its
blanks are normalized. The two agree run by run as long as every carriage return belongs to a line
end and no tab can turn into a part of the marker.
-/

namespace StyleCatalog

open Text

/-! ## Opening lines -/

namespace ParameterRun

/-- A marker that no expanded tab can be part of: it holds neither a tab nor the four spaces that
take its place. -/
structure IsSteady (marker : Text) : Prop where
  noTab : '\t' ∉ marker
  noGap : ¬"    ".toList <:+: marker

theorem IsSteady.of_cons {c : Char} {marker : Text} (steady : IsSteady (c :: marker)) :
    IsSteady marker where
  noTab member := steady.noTab (List.mem_cons_of_mem c member)
  noGap inside := steady.noGap (inside.trans (List.suffix_cons c marker).isInfix)

/-- An expanded line starts with the marker if the line does, or if the marker ends within an
expanded tab; then a space follows. -/
theorem IsSteady.exists_of_append_eq {marker rest line : Text} (steady : IsSteady marker)
    (starts : expandTabs line = marker ++ rest) :
    (∃ unexpanded, line = marker ++ unexpanded ∧ rest = expandTabs unexpanded) ∨
      rest.head? = some ' ' := by
  induction line generalizing marker with
  | nil =>
      obtain ⟨rfl, rfl⟩ := List.append_eq_nil_iff.mp starts.symm
      exact .inl ⟨[], rfl, rfl⟩
  | cons c more induction =>
      cases marker with
      | nil => exact .inl ⟨c :: more, rfl, starts.symm⟩
      | cons d others =>
          by_cases tab : c = '\t'
          · subst tab
            rw [expandTabs_cons_tab] at starts
            rcases List.append_eq_append_iff.mp starts with
              ⟨after, whole, -⟩ | ⟨spaces, whole, follows⟩
            · exact absurd ⟨[], after, whole.symm⟩ steady.noGap
            · cases spaces with
              | nil =>
                  rw [List.append_nil] at whole
                  exact absurd (whole ▸ List.infix_rfl) steady.noGap
              | cons space fewer =>
                  have inGap : space ∈ "    ".toList := by
                    rw [whole]
                    simp
                  have isSpace : space = ' ' := by simpa using inGap
                  rw [follows, isSpace]
                  exact .inr rfl
          · rw [expandTabs_cons tab, List.cons_append, List.cons.injEq] at starts
            obtain ⟨rfl, starts⟩ := starts
            rcases induction steady.of_cons starts with ⟨unexpanded, rfl, same⟩ | space
            · exact .inl ⟨unexpanded, rfl, same⟩
            · exact .inr space

theorem cutAt?_colon_cons {c : Char} (noColon : c ≠ ':') (t : Text) :
    cutAt? [':'] (c :: t) = (cutAt? [':'] t).map fun cut => (c :: cut.1, cut.2) := by
  have notHere : dropPrefix? [':'] (c :: t) = none := by
    rw [dropPrefix?_eq_none_iff, List.cons_prefix_cons]
    exact fun both => noColon both.1.symm
  rw [cutAt?, notHere]

theorem cutAt?_colon_expandTabs (t : Text) :
    cutAt? [':'] (expandTabs t) =
      (cutAt? [':'] t).map fun cut => (expandTabs cut.1, expandTabs cut.2) := by
  induction t with
  | nil => rfl
  | cons c rest induction =>
      by_cases tab : c = '\t'
      · subst tab
        change cutAt? [':'] (' ' :: ' ' :: ' ' :: ' ' :: expandTabs rest) = _
        simp only [cutAt?_colon_cons (by decide : ' ' ≠ ':'),
          cutAt?_colon_cons (by decide : '\t' ≠ ':'), induction, Option.map_map]
        rfl
      · rw [expandTabs_cons tab]
        by_cases colon : c = ':'
        · subst colon
          rfl
        · rw [cutAt?_colon_cons colon, cutAt?_colon_cons colon, induction, Option.map_map,
            Option.map_map]
          apply congrArg (Option.map · _)
          funext cut
          simp [expandTabs_cons tab]

/-- The name and the value in what follows the marker. -/
def naming? (rest : Text) : Option (Text × Text) :=
  (cutAt? [':'] rest).bind fun cut =>
    if !cut.1.isEmpty && cut.1.all isNameChar then some cut else none

theorem opening?_eq_bind (marker line : Text) :
    opening? marker line = (dropPrefix? marker line.trimStart).bind naming? := by
  rw [opening?]
  cases dropPrefix? marker line.trimStart with
  | none => rfl
  | some rest =>
      dsimp only [Option.bind_some]
      rw [naming?]
      cases cutAt? [':'] rest <;> rfl

theorem naming?_space (rest : Text) : naming? (' ' :: rest) = none := by
  have notNaming : isNameChar ' ' = false := by decide
  rw [naming?, cutAt?_colon_cons (by decide)]
  cases cutAt? [':'] rest with
  | none => rfl
  | some cut =>
      rw [Option.map_some, Option.bind_some, List.all_cons, notNaming, Bool.false_and,
        Bool.and_false]
      rfl

theorem naming?_expandTabs (rest : Text) :
    naming? (expandTabs rest) =
      (naming? rest).map fun opened => (opened.1, expandTabs opened.2) := by
  rw [naming?, cutAt?_colon_expandTabs, naming?]
  cases cutAt? [':'] rest with
  | none => rfl
  | some cut =>
      rcases cut with ⟨name, value⟩
      by_cases tab : '\t' ∈ name
      · -- Neither the tab nor the spaces in its place can stand in a name.
        have noName : name.all isNameChar = false := List.all_eq_false.mpr ⟨'\t', tab, by decide⟩
        have noNameLeft : (expandTabs name).all isNameChar = false :=
          List.all_eq_false.mpr ⟨' ', space_mem_expandTabs tab, by decide⟩
        simp only [Option.map_some, Option.bind_some, noName, noNameLeft, Bool.and_false]
        rfl
      · simp only [Option.map_some, Option.bind_some, expandTabs_of_not_mem tab]
        split <;> rfl

theorem IsSteady.opening?_expandTabs {marker : Text} (steady : IsSteady marker) (line : Text) :
    opening? marker (expandTabs line) =
      (opening? marker line).map fun opened => (opened.1, expandTabs opened.2) := by
  rw [opening?_eq_bind, opening?_eq_bind, trimStart_expandTabs]
  generalize line.trimStart = body
  cases here : dropPrefix? marker body with
  | some rest =>
      rw [dropPrefix?_eq_some_iff] at here
      have expanded : dropPrefix? marker (expandTabs body) = some (expandTabs rest) := by
        rw [dropPrefix?_eq_some_iff, here, expandTabs_append, expandTabs_of_not_mem steady.noTab]
      rw [expanded]
      exact naming?_expandTabs rest
  | none =>
      cases there : dropPrefix? marker (expandTabs body) with
      | none => rfl
      | some rest =>
          rw [dropPrefix?_eq_some_iff] at there
          rcases steady.exists_of_append_eq there with ⟨unexpanded, shape, -⟩ | space
          · rw [dropPrefix?_eq_none_iff] at here
            exact absurd ⟨unexpanded, shape.symm⟩ here
          · rcases List.head?_eq_some_iff.mp space with ⟨more, rfl⟩
            exact naming?_space more

/-! ## Runs -/

section Steps

variable {marker line name value : Text} {below : List Text}

theorem cut_opening (opened : Option (Text × Text × List Text)) (rest : List Text)
    (opens : opening? marker line = some (name, value)) :
    cut marker opened (line :: rest) =
      (opened.map fun run => .parameter run.1 run.2.1 run.2.2).toList ++
        cut marker (some (name, value, [])) rest := by
  cases opened <;> simp [cut, opens]

theorem cut_kept (rest : List Text) (plain : opening? marker line = none) :
    cut marker none (line :: rest) = .kept line :: cut marker none rest := by
  simp [cut, plain]

theorem cut_closing (rest : List Text) (plain : opening? marker line = none)
    (blank : line.isBlankLine = true) :
    cut marker (some (name, value, below)) (line :: rest) =
      .parameter name value below :: .kept line :: cut marker none rest := by
  simp [cut, plain, blank]

theorem cut_below (rest : List Text) (plain : opening? marker line = none)
    (solid : line.isBlankLine = false) :
    cut marker (some (name, value, below)) (line :: rest) =
      cut marker (some (name, value, below ++ [line])) rest := by
  simp [cut, plain, solid]

end Steps

/-- A run with its tabs expanded. -/
def expand : ParameterRun → ParameterRun
  | .kept line => .kept (expandTabs line)
  | .parameter name opening below =>
    .parameter name (expandTabs opening) (below.map expandTabs)

theorem IsSteady.cut_map_expandTabs {marker : Text} (steady : IsSteady marker)
    (opened : Option (Text × Text × List Text)) (lines : List Text) :
    cut marker (opened.map fun run => (run.1, expandTabs run.2.1, run.2.2.map expandTabs))
        (lines.map expandTabs) =
      (cut marker opened lines).map expand := by
  induction lines generalizing opened with
  | nil => rcases opened with _ | ⟨name, value, below⟩ <;> rfl
  | cons line rest induction =>
      have expanded := steady.opening?_expandTabs line
      rw [List.map_cons]
      cases opens : opening? marker line with
      | some found =>
          rw [opens] at expanded
          have later := induction (some (found.1, found.2, []))
          rw [cut_opening _ _ expanded, cut_opening _ _ opens, List.map_append, ← later]
          cases opened <;> rfl
      | none =>
          rw [opens] at expanded
          rcases opened with _ | ⟨name, value, below⟩
          · rw [cut_kept _ opens, List.map_cons, ← induction none]
            exact cut_kept _ expanded
          · cases blank : line.isBlankLine with
            | true =>
                rw [cut_closing _ opens blank, List.map_cons, List.map_cons, ← induction none]
                exact cut_closing _ expanded (by rw [isBlankLine_expandTabs, blank])
            | false =>
                rw [cut_below _ opens blank, ← induction]
                refine (cut_below _ expanded (by rw [isBlankLine_expandTabs, blank])).trans ?_
                rw [Option.map_some, List.map_append]
                rfl

/-- The runs of a normalized comment are those of the comment, with their tabs expanded. -/
theorem IsSteady.ofText_normalizeBlanks {marker comment : Text} (steady : IsSteady marker)
    (clean : ∀ line ∈ comment.lines, '\r' ∉ line) :
    ofText marker (normalizeBlanks comment) = (ofText marker comment).map expand := by
  rw [ofText, lines_normalizeBlanks clean]
  exact steady.cut_map_expandTabs none comment.lines

theorem of_kept_mem_cut {marker line : Text} {opened : Option (Text × Text × List Text)}
    {lines : List Text} (stays : .kept line ∈ cut marker opened lines) :
    line ∈ lines ∧ opening? marker line = none := by
  induction lines generalizing opened with
  | nil => rcases opened with _ | ⟨name, value, below⟩ <;> simp [cut] at stays
  | cons first rest induction =>
      have grow (inRest : line ∈ rest ∧ opening? marker line = none) :
          line ∈ first :: rest ∧ opening? marker line = none :=
        ⟨List.mem_cons_of_mem first inRest.1, inRest.2⟩
      cases opens : opening? marker first with
      | some found =>
          rw [cut_opening _ _ opens, List.mem_append] at stays
          rcases stays with closed | later
          · cases opened <;> simp at closed
          · exact grow (induction later)
      | none =>
          rcases opened with _ | ⟨name, value, below⟩
          · rw [cut_kept _ opens, List.mem_cons, kept.injEq] at stays
            rcases stays with rfl | later
            · exact ⟨List.mem_cons_self, opens⟩
            · exact grow (induction later)
          · cases blank : first.isBlankLine with
            | true =>
                rw [cut_closing _ opens blank] at stays
                simp only [List.mem_cons, reduceCtorEq, false_or, kept.injEq] at stays
                rcases stays with rfl | later
                · exact ⟨List.mem_cons_self, opens⟩
                · exact grow (induction later)
            | false =>
                rw [cut_below _ opens blank] at stays
                exact grow (induction stays)

theorem name_toParameter?_expand (run : ParameterRun) :
    run.expand.toParameter?.map Parameter.name = run.toParameter?.map Parameter.name := by
  cases run <;> rfl

theorem toKept?_expand (run : ParameterRun) :
    run.expand.toKept? = run.toKept?.map expandTabs := by
  cases run <;> rfl

end ParameterRun

end StyleCatalog
