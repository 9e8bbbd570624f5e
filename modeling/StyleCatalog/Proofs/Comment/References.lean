import StyleCatalog.Comment.Entry
import StyleCatalog.Proofs.Text.Trimming

/-! # References of a comment

An entry has the reference of the line that closes it: never an empty one, and trimmed. Full stops
at its end are dropped, but only up to the first white space before them.
-/

namespace StyleCatalog

/-! ## What a line names -/

namespace Text

theorem suffix_of_afterKeyword? {keyword t rest : Text}
    (found : afterKeyword? keyword t = some rest) : rest <:+ t := by
  induction keyword generalizing t with
  | nil =>
      cases found
      exact List.suffix_rfl
  | cons letter more induction =>
      cases t with
      | nil => cases found
      | cons c others =>
          rw [afterKeyword?] at found
          split at found
          · exact (induction found).trans (List.suffix_cons c others)
          · cases found

theorem suffix_of_afterWord? {keyword t rest : Text} (found : afterWord? keyword t = some rest) :
    rest <:+ t := by
  refine @suffix_of_afterKeyword? keyword t rest ?_
  rw [afterWord?] at found
  split at found
  · rename_i c more here
    split at found
    · cases found
    · rw [here, found]
  · exact found

theorem trim_infix (t : Text) : t.trim <:+: t :=
  (trimEnd_isPrefix _).isInfix.trans (trimStart_isSuffix t).isInfix

end Text

namespace Paragraph

variable {line reference : Text}

theorem exists_named_of_reference? (found : reference? line = some reference) :
    ∃ named : Text, named <:+: line ∧ named.trim = named ∧
      reference = Text.trim (named.dropEndWhile (· = '.')) := by
  rw [reference?, Option.map_eq_some_iff] at found
  rcases found with ⟨rest, after, rfl⟩
  have inLine : rest <:+: line :=
    ((Text.suffix_of_afterWord? after).trans (Text.trimStart_isSuffix line)).isInfix
  refine ⟨_, ?_, Text.trim_trim _, rfl⟩
  apply (Text.trim_infix _).trans
  split
  · rename_i more
    exact (List.suffix_cons ':' more).isInfix.trans inLine
  · exact inLine

theorem trim_of_reference? (found : reference? line = some reference) :
    reference.trim = reference := by
  rcases exists_named_of_reference? found with ⟨named, -, -, rfl⟩
  exact Text.trim_trim _

/-- A reference that ends in a full stop stood before white space and more full stops. -/
theorem exists_stops_of_reference? (found : reference? line = some reference)
    (stop : reference.getLast? = some '.') :
    ∃ gap stops : Text, gap ≠ [] ∧ gap.isBlankLine = true ∧ stops ≠ [] ∧ (∀ c ∈ stops, c = '.') ∧
      reference ++ gap ++ stops <:+: line := by
  rcases exists_named_of_reference? found with ⟨named, inLine, trimmed, cut⟩
  rw [Text.trim_eq_self_iff] at trimmed
  let kept : Text := named.rdropWhile (· = '.')
  let stops : Text := named.rtakeWhile (· = '.')
  let gap : Text := kept.rtakeWhile isBlank
  have whole : kept ++ stops = named := List.rdropWhile_append_rtakeWhile
  have start : kept.trimStart = kept :=
    Text.trimStart_eq_self_of_isPrefix (List.rdropWhile_prefix _ named) trimmed.1
  have same : reference = kept.rdropWhile isBlank := by
    rw [cut]
    exact congrArg Text.trimEnd start
  have keptWhole : reference ++ gap = kept := by
    rw [same]
    exact List.rdropWhile_append_rtakeWhile
  have someGap : gap ≠ [] := by
    intro noGap
    rw [noGap, List.append_nil] at keptWhole
    rw [keptWhole] at stop
    have noStop := rdropWhile_eq_self_iff_getLast?.mp (List.rdropWhile_idempotent (· = '.') named)
    exact absurd (noStop '.' stop) (by decide)
  have someStops : stops ≠ [] := by
    intro noStops
    rw [noStops, List.append_nil] at whole
    have noGap : reference = kept := by
      rw [same, whole]
      exact trimmed.2
    exact someGap (List.append_right_eq_self.mp (keptWhole.trans noGap.symm))
  refine ⟨gap, stops, someGap, ?_, someStops, ?_, ?_⟩
  · rw [Text.isBlankLine_iff]
    exact fun c => List.mem_rtakeWhile_imp
  · intro c member
    simpa using List.mem_rtakeWhile_imp member
  · rw [keptWhole, whole]
    exact inLine

end Paragraph

/-! ## References of entries -/

namespace Entry

variable {entry next : Entry}

theorem reference_takeFlag (entry : Entry) (t : Text) :
    (entry.takeFlag t).1.reference = entry.reference := by
  rw [takeFlag]
  split
  · rename_i flag rest _
    cases flag <;> rfl
  · rfl

theorem reference_addProse (entry : Entry) (t : Text) :
    (entry.addProse t).reference = entry.reference := by
  rw [addProse]
  split <;> rfl

theorem reference_absorb {paragraph : Paragraph} (success : entry.absorb paragraph = .ok next) :
    next.reference = entry.reference := by
  rw [absorb.eq_def] at success
  split at success
  · cases success
    rfl
  · split at success
    · cases success
      rfl
    · split at success
      · rcases exists_of_map_eq_ok success with ⟨weight, -, rfl⟩
        rfl
      · split at success
        · cases success
          rfl
        · cases success
          rw [reference_addProse, reference_takeFlag]

theorem reference_absorbAll {paragraphs : List Paragraph}
    (success : entry.absorbAll paragraphs = .ok next) : next.reference = entry.reference := by
  induction paragraphs generalizing entry with
  | nil =>
      cases success
      rfl
  | cons paragraph rest induction =>
      rw [absorbAll] at success
      split at success
      · rename_i absorbed step
        rw [induction success, reference_absorb step]
      · cases success

theorem reference_ofBody {reference : Text} {body : List Paragraph}
    (success : ofBody reference body = .ok entry) : entry.reference = reference := by
  cases body with
  | nil =>
      cases success
      rfl
  | cons header rest =>
      rw [ofBody] at success
      rw [reference_absorbAll success]
      exact reference_takeFlag _ _

/-- Every entry is closed by a paragraph that names its reference. -/
theorem exists_closing_of_ofParagraphs {paragraphs pending : List Paragraph} {entries : List Entry}
    (success : ofParagraphs pending paragraphs = .ok entries) :
    ∀ entry ∈ entries, entry.reference ≠ [] ∧
      ∃ paragraph ∈ paragraphs, closing? paragraph = some entry.reference := by
  induction paragraphs generalizing pending entries with
  | nil =>
      cases success
      exact List.forall_mem_nil _
  | cons paragraph rest induction =>
      rw [ofParagraphs] at success
      have later {pending : List Paragraph} {others : List Entry}
          (read : ofParagraphs pending rest = .ok others) :
          ∀ entry ∈ others, entry.reference ≠ [] ∧
            ∃ other ∈ paragraph :: rest, closing? other = some entry.reference := by
        intro entry member
        rcases induction read entry member with ⟨named, other, inRest, closes⟩
        exact ⟨named, other, List.mem_cons_of_mem paragraph inRest, closes⟩
      split at success
      · exact later success
      · rename_i reference closes
        split at success
        · cases success
        · rename_i named
          split at success
          · cases success
          · rename_i first body
            rcases exists_of_map_eq_ok success with ⟨others, read, rfl⟩
            have same := reference_ofBody body
            refine List.forall_mem_cons.mpr ⟨?_, later read⟩
            rw [same]
            exact ⟨by simpa using named, paragraph, List.mem_cons_self, closes⟩

end Entry

end StyleCatalog
