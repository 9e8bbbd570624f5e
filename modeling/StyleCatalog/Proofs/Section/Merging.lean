import StyleCatalog.Section.Builder
import StyleCatalog.Section.Record

/-! # Merging parameters

What a parameter can do to a section, and what all parameters of a comment leave in its fields: of
several parameters with one name the last counts.
-/

namespace StyleCatalog

namespace Section

variable {s merged : Section} {parameter : Parameter}

/-- What merging a parameter does: nothing if its field is computed, else it sets the field of its
name or stands beside the fields. -/
inductive Merges (s : Section) : Parameter → Section → Prop
  | computed {name value : Text} (isComputed : name ∈ computedFields) : Merges s ⟨name, value⟩ s
  | header (value : Text) : Merges s ⟨"header".toList, value⟩ { s with header := value }
  | description (value : Text) :
      Merges s ⟨"description".toList, value⟩ { s with description := value }
  | reference (value : Text) : Merges s ⟨"reference".toList, value⟩ { s with reference := value }
  | markup (value : Text) : Merges s ⟨"markup".toList, value⟩ { s with markup := some value }
  | css (value : Text) : Merges s ⟨"css".toList, value⟩ { s with css := some value }
  | weight {value : Text} {weight : Weight} (read : Weight.parse value = .ok weight) :
      Merges s ⟨"weight".toList, value⟩ { s with weight := weight }
  | deprecated {value : Text} {flag : Bool} (read : readFlag "deprecated".toList value = .ok flag) :
      Merges s ⟨"deprecated".toList, value⟩ { s with deprecated := flag }
  | experimental {value : Text} {flag : Bool}
      (read : readFlag "experimental".toList value = .ok flag) :
      Merges s ⟨"experimental".toList, value⟩ { s with experimental := flag }
  | extra {name value : Text} (isExtra : name ∉ standardKeys) :
      Merges s ⟨name, value⟩ { s with extras := s.extras.insert name value }

theorem merges_of_merge (success : s.merge parameter = .ok merged) : s.Merges parameter merged := by
  rcases parameter with ⟨name, value⟩
  rw [merge] at success
  dsimp only at success
  by_cases isComputed : computedFields.contains name = true
  · rw [if_pos isComputed] at success
    cases success
    exact .computed (List.contains_iff_mem.mp isComputed)
  rw [if_neg isComputed] at success
  by_cases isHeader : name = "header".toList
  · rw [if_pos isHeader] at success
    cases success
    exact isHeader ▸ .header value
  rw [if_neg isHeader] at success
  by_cases isDescription : name = "description".toList
  · rw [if_pos isDescription] at success
    cases success
    exact isDescription ▸ .description value
  rw [if_neg isDescription] at success
  by_cases isReference : name = "reference".toList
  · rw [if_pos isReference] at success
    cases success
    exact isReference ▸ .reference value
  rw [if_neg isReference] at success
  by_cases isMarkup : name = "markup".toList
  · rw [if_pos isMarkup] at success
    cases success
    exact isMarkup ▸ .markup value
  rw [if_neg isMarkup] at success
  by_cases isCss : name = "css".toList
  · rw [if_pos isCss] at success
    cases success
    exact isCss ▸ .css value
  rw [if_neg isCss] at success
  by_cases isWeight : name = "weight".toList
  · rw [if_pos isWeight] at success
    rcases exists_of_map_eq_ok success with ⟨weight, read, rfl⟩
    exact isWeight ▸ .weight read
  rw [if_neg isWeight] at success
  by_cases isDeprecated : name = "deprecated".toList
  · rw [if_pos isDeprecated] at success
    rcases exists_of_map_eq_ok success with ⟨flag, read, rfl⟩
    subst isDeprecated
    exact .deprecated read
  rw [if_neg isDeprecated] at success
  by_cases isExperimental : name = "experimental".toList
  · rw [if_pos isExperimental] at success
    rcases exists_of_map_eq_ok success with ⟨flag, read, rfl⟩
    subst isExperimental
    exact .experimental read
  rw [if_neg isExperimental] at success
  cases success
  -- Every standard key is one of the names that the tests above have ruled out.
  refine .extra fun isStandard => ?_
  rw [List.contains_iff_mem] at isComputed
  simp only [computedFields, standardKeys, List.map_cons, List.map_nil, List.mem_cons,
    List.not_mem_nil, or_false, not_or] at isComputed isStandard
  simp only [isHeader, isDescription, isComputed, isDeprecated, isExperimental, isReference,
    isWeight, isMarkup, isCss, or_false] at isStandard

theorem Merges.modifiers_eq (merges : s.Merges parameter merged) :
    merged.modifiers = s.modifiers := by
  cases merges <;> rfl

/-- A field whose value a parameter gives as it stands. -/
inductive TextField where
  | header
  | description
  | reference
  | markup
  | css

def TextField.key : TextField → Text
  | .header => "header".toList
  | .description => "description".toList
  | .reference => "reference".toList
  | .markup => "markup".toList
  | .css => "css".toList

def TextField.get? : TextField → Section → Option Text
  | .header, s => some s.header
  | .description, s => some s.description
  | .reference, s => some s.reference
  | .markup, s => s.markup
  | .css, s => s.css

theorem TextField.key_not_mem_computedFields (field : TextField) : field.key ∉ computedFields := by
  cases field <;> decide

theorem TextField.key_mem_standardKeys (field : TextField) : field.key ∈ standardKeys := by
  cases field <;> decide

/-- A parameter sets the field of its name and no other. -/
theorem Merges.textField_eq (merges : s.Merges parameter merged) (field : TextField) :
    field.get? merged =
      if parameter.name = field.key then some parameter.value else field.get? s := by
  cases merges with
  | computed isComputed =>
      rw [if_neg (ne_of_mem_of_not_mem isComputed field.key_not_mem_computedFields)]
  | extra isExtra =>
      rw [if_neg (ne_of_mem_of_not_mem field.key_mem_standardKeys isExtra).symm]
      cases field <;> rfl
  | _ => cases field <;> rfl

/-! ## All parameters -/

/-- Parameters merged one after the other. -/
inductive MergesAll : Section → List Parameter → Section → Prop
  | nil (s : Section) : MergesAll s [] s
  | cons {s next merged : Section} {parameter : Parameter} {rest : List Parameter}
      (first : s.Merges parameter next) (later : MergesAll next rest merged) :
      MergesAll s (parameter :: rest) merged

theorem mergesAll_of_mergeAll {parameters : List Parameter} {notices : List Notice}
    (success : s.mergeAll parameters = .ok (merged, notices)) :
    s.MergesAll parameters merged := by
  induction parameters generalizing s notices with
  | nil =>
      cases success
      exact .nil _
  | cons parameter rest induction =>
      rw [mergeAll] at success
      cases step : s.merge parameter with
      | error fault =>
          rw [step] at success
          cases success
      | ok next =>
          rw [step] at success
          rcases exists_of_map_eq_ok success with ⟨⟨_, told⟩, more, same⟩
          cases same
          exact .cons (merges_of_merge step) (induction more)

end Section

/-- The value of the last parameter with a name. -/
def lastValue? (name : Text) : List Parameter → Option Text
  | [] => none
  | parameter :: rest =>
    (lastValue? name rest).or (if parameter.name = name then some parameter.value else none)

theorem lastValue?_eq_none {name : Text} {parameters : List Parameter}
    (absent : ∀ parameter ∈ parameters, parameter.name ≠ name) :
    lastValue? name parameters = none := by
  induction parameters with
  | nil => rfl
  | cons parameter rest induction =>
      rw [List.forall_mem_cons] at absent
      rw [lastValue?, induction absent.2, if_neg absent.1]
      rfl

theorem exists_mem_of_lastValue?_eq_some {name value : Text} {parameters : List Parameter}
    (last : lastValue? name parameters = some value) :
    ∃ parameter ∈ parameters, parameter.value = value := by
  induction parameters with
  | nil => cases last
  | cons parameter rest induction =>
      rw [lastValue?, Option.or_eq_some_iff] at last
      rcases last with later | ⟨-, here⟩
      · rcases induction later with ⟨other, member, same⟩
        exact ⟨other, List.mem_cons_of_mem _ member, same⟩
      · rw [Option.ite_none_right_eq_some] at here
        exact ⟨parameter, List.mem_cons_self, Option.some.inj here.2⟩

namespace Section.MergesAll

variable {s merged : Section} {parameters : List Parameter}

theorem modifiers_eq (merges : s.MergesAll parameters merged) :
    merged.modifiers = s.modifiers := by
  induction merges with
  | nil => rfl
  | cons first _ induction => rw [induction, first.modifiers_eq]

/-- A field holds what the last parameter of its name gives. -/
theorem textField_eq (merges : s.MergesAll parameters merged) (field : TextField) :
    field.get? merged = (lastValue? field.key parameters).or (field.get? s) := by
  induction merges with
  | nil => rfl
  | @cons s next merged parameter rest first _ induction =>
      rw [induction, first.textField_eq, lastValue?]
      cases lastValue? field.key rest with
      | some value => rfl
      | none => split <;> rfl

theorem textField_eq_of_absent (merges : s.MergesAll parameters merged) (field : TextField)
    (absent : ∀ parameter ∈ parameters, parameter.name ≠ field.key) :
    field.get? merged = field.get? s := by
  rw [merges.textField_eq, lastValue?_eq_none absent, Option.none_or]

end Section.MergesAll

/-! ## Building -/

/-- A built section is the first entry of the cleaned comment with the parameters of the comment as
it was written. -/
theorem Builder.exists_of_build {builder : Builder} {block : Block} {s : Section}
    {notices : List Notice} (success : builder.build block = .ok (some s, notices)) :
    ∃ entry others,
      Entry.ofComment (cleanComment builder.marker block.comment) = .ok (entry :: others) ∧
      { entry.toSection builder.render with css := styleOf block.code }.MergesAll
        (parameters builder.marker block.comment) s := by
  rw [build] at success
  split at success
  · cases success
  · cases success
  · rename_i entry others read
    rcases exists_of_map_eq_ok success with ⟨⟨_, told⟩, merged, same⟩
    cases same
    exact ⟨entry, others, read, Section.mergesAll_of_mergeAll merged⟩

end StyleCatalog
