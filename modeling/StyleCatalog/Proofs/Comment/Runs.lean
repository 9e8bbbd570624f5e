import StyleCatalog.Proofs.Comment.Cleaning

/-! # Runs of a comment

The lines of a comment fall into runs in one way only: a line of its own, or a parameter with all
the lines it goes on over. What is kept of a comment and what is read from it are the two kinds of
runs, `lines_divide`; and what is kept holds no parameter any more.
-/

namespace StyleCatalog.ParameterRun

open Text

/-! ## Opening lines -/

/-- A line that opens a parameter: white space, the marker, a name and a colon. -/
structure Opens (marker line name value : Text) : Prop where
  shape : line.trimStart = marker ++ (name ++ ':' :: value)
  named : name ≠ []
  inName : ∀ c ∈ name, isNameChar c = true

theorem cutAt?_colon_of_not_mem {name : Text} (noColon : ':' ∉ name) (value : Text) :
    cutAt? [':'] (name ++ ':' :: value) = some (name, value) := by
  induction name with
  | nil => rfl
  | cons c rest induction =>
      rw [List.mem_cons, not_or] at noColon
      rw [List.cons_append, cutAt?_colon_cons (Ne.symm noColon.1), induction noColon.2]
      rfl

theorem opening?_eq_some_iff {marker line name value : Text} :
    opening? marker line = some (name, value) ↔ Opens marker line name value := by
  rw [opening?_eq_bind, Option.bind_eq_some_iff]
  constructor
  · rintro ⟨rest, starts, names⟩
    rw [dropPrefix?_eq_some_iff] at starts
    rw [naming?, Option.bind_eq_some_iff] at names
    rcases names with ⟨cut, found, named⟩
    split at named
    · rename_i valid
      cases named
      rw [Bool.and_eq_true, Bool.not_eq_true', List.isEmpty_eq_false_iff, List.all_eq_true] at valid
      exact ⟨by rw [starts, eq_append_of_cutAt? found]; rfl, valid.1, valid.2⟩
    · cases named
  · intro opens
    have noColon : ':' ∉ name := fun member => absurd (opens.inName ':' member) (by decide)
    refine ⟨name ++ ':' :: value, dropPrefix?_eq_some_iff.mpr opens.shape, ?_⟩
    have valid : (!name.isEmpty && name.all isNameChar) = true := by
      rw [Bool.and_eq_true, Bool.not_eq_true', List.isEmpty_eq_false_iff, List.all_eq_true]
      exact ⟨opens.named, opens.inName⟩
    rw [naming?, cutAt?_colon_of_not_mem noColon, Option.bind_some, if_pos valid]

theorem opening?_eq_none_iff {marker line : Text} :
    opening? marker line = none ↔ ∀ name value, ¬Opens marker line name value := by
  rw [Option.eq_none_iff_forall_ne_some]
  constructor
  · exact fun none name value opens => none (name, value) (opening?_eq_some_iff.mpr opens)
  · exact fun none opened found => none opened.1 opened.2 (opening?_eq_some_iff.mp found)

/-! ## Dividing lines into runs -/

/-- A line that belongs to the parameter opened above it: neither blank nor an opening line. -/
def GoesOn (marker line : Text) : Prop :=
  line.isBlankLine = false ∧ ∀ name value, ¬Opens marker line name value

/-- Lines and the runs they consist of. A line of its own opens no parameter; a parameter takes its
opening line and all lines after it that go on with it. -/
inductive Divides (marker : Text) : List Text → List ParameterRun → Prop
  | nil : Divides marker [] []
  | kept {line : Text} {rest : List Text} {runs : List ParameterRun}
      (plain : ∀ name value, ¬Opens marker line name value) (later : Divides marker rest runs) :
      Divides marker (line :: rest) (.kept line :: runs)
  | parameter {line name value : Text} {below rest : List Text} {runs : List ParameterRun}
      (opens : Opens marker line name value) (goesOn : ∀ other ∈ below, GoesOn marker other)
      (ends : ∀ next ∈ rest.head?, ¬GoesOn marker next) (later : Divides marker rest runs) :
      Divides marker (line :: below ++ rest) (.parameter name value below :: runs)

section Cutting

variable {marker name value : Text}

theorem cut_goesOn {below more : List Text} (goesOn : ∀ line ∈ more, GoesOn marker line)
    (rest : List Text) :
    cut marker (some (name, value, below)) (more ++ rest) =
      cut marker (some (name, value, below ++ more)) rest := by
  induction more generalizing below with
  | nil => rw [List.nil_append, List.append_nil]
  | cons line others induction =>
      rw [List.forall_mem_cons] at goesOn
      rw [List.cons_append, cut_below _ (opening?_eq_none_iff.mpr goesOn.1.2) goesOn.1.1,
        induction goesOn.2, List.append_assoc, List.singleton_append]

theorem cut_ends {below rest : List Text} (ends : ∀ next ∈ rest.head?, ¬GoesOn marker next) :
    cut marker (some (name, value, below)) rest =
      .parameter name value below :: cut marker none rest := by
  cases rest with
  | nil => rfl
  | cons next others =>
      cases opens : opening? marker next with
      | some found => rw [cut_opening _ _ opens, cut_opening _ _ opens]; rfl
      | none =>
          have blank : next.isBlankLine = true := by
            rw [← Bool.not_eq_false]
            exact fun solid => ends next rfl ⟨solid, opening?_eq_none_iff.mp opens⟩
          rw [cut_closing _ opens blank, cut_kept _ opens]

end Cutting

variable {marker : Text}

/-- The runs of lines are the ones that `cut` finds. -/
theorem Divides.eq_cut {lines : List Text} {runs : List ParameterRun}
    (divides : Divides marker lines runs) : runs = cut marker none lines := by
  induction divides with
  | nil => rfl
  | kept plain later induction => rw [cut_kept _ (opening?_eq_none_iff.mpr plain), induction]
  | parameter opens goesOn ends later induction =>
      rw [List.cons_append, cut_opening _ _ (opening?_eq_some_iff.mpr opens), cut_goesOn goesOn,
        cut_ends ends, induction]
      rfl

theorem cut_of_plain {lines : List Text} (plain : ∀ line ∈ lines, opening? marker line = none) :
    cut marker none lines = lines.map .kept := by
  induction lines with
  | nil => rfl
  | cons line rest induction =>
      rw [List.forall_mem_cons] at plain
      rw [cut_kept _ plain.1, induction plain.2, List.map_cons]

theorem parameters_of_plain {t : Text} (plain : ∀ line ∈ t.lines, opening? marker line = none) :
    parameters marker t = [] := by
  rw [parameters, ofText, cut_of_plain plain, List.filterMap_map]
  exact List.filterMap_eq_nil_iff.mpr fun line member => rfl

/-- Blank lines after a parameter are kept, an opening line closes the parameter above it, and the
carriage return that the first kept line ends in goes to the line end once the lines are joined. -/
example :
    ofText "sg-".toList "A\r\r\n sg-a: 1\n x\nsg-b:\n\u00A0\nsg-: c".toList =
      [.kept "A\r".toList, .parameter "a".toList " 1".toList [" x".toList],
        .parameter "b".toList [] [], .kept "\u00A0".toList, .kept "sg-: c".toList] := by decide

end StyleCatalog.ParameterRun
