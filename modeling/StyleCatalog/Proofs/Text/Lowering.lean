import StyleCatalog.Text.Lower

/-! # Lowering the parts of a text

A capital sigma is lowered by what stands around it, and the look around goes through full stops.
So the two parts of a text at a full stop are not always lowered as they would be alone: this module
says exactly when they are, and that at most the form of a sigma differs.
-/

namespace StyleCatalog.Text

/-! ## Neighbouring letters -/

theorem meetsCased_cons (c : Char) (t : Text) :
    meetsCased (c :: t) = if isCaseIgnorable c then meetsCased t else isCased c := by
  rw [meetsCased, List.dropWhile_cons]
  cases isCaseIgnorable c <;> rfl

theorem meetsCased_append (t u : Text) :
    meetsCased (t ++ u) = if t.all isCaseIgnorable then meetsCased u else meetsCased t := by
  induction t with
  | nil => rfl
  | cons c rest induction =>
      rw [List.cons_append, meetsCased_cons, induction, List.all_cons, meetsCased_cons]
      cases isCaseIgnorable c <;> rfl

theorem meetsCased_of_all {t : Text} (ignorable : t.all isCaseIgnorable = true) :
    meetsCased t = false := by
  have alone := meetsCased_append t []
  rwa [List.append_nil, if_pos ignorable] at alone

theorem meetsCased_dot (t : Text) : meetsCased ('.' :: t) = meetsCased t := by
  rw [meetsCased_cons, if_pos (by decide)]

/-! ## A text between others -/

/-- Lower a text that stands between two others, of which the first is given from its end. -/
def lowerBetween (before : Text) : Text → Text → Text
  | [], _ => []
  | c :: rest, after => lowerAt before c (rest ++ after) ++ lowerBetween (c :: before) rest after

theorem lowerFrom_append (before t u : Text) :
    lowerFrom before (t ++ u) = lowerBetween before t u ++ lowerFrom (t.reverse ++ before) u := by
  induction t generalizing before with
  | nil => rfl
  | cons c rest induction =>
      rw [List.cons_append, lowerFrom, induction, lowerBetween, List.reverse_cons,
        List.append_assoc, List.append_assoc, List.singleton_append]

theorem lowerFrom_eq_lowerBetween (before t : Text) :
    lowerFrom before t = lowerBetween before t [] := by
  have alone := lowerFrom_append before t []
  rwa [List.append_nil, lowerFrom, List.append_nil] at alone

/-- Whether a capital sigma between two texts ends a word, the first text given from its end: a
letter of the word comes before it and none after. -/
def endsWord (before after : Text) : Bool := meetsCased before && !meetsCased after

theorem lowerAt_eq_iff {before after otherBefore otherAfter : Text} {c : Char} :
    lowerAt before c after = lowerAt otherBefore c otherAfter ↔
      (c = 'Σ' → endsWord before after = endsWord otherBefore otherAfter) := by
  by_cases sigma : c = 'Σ'
  · simp only [lowerAt, sigma, forall_const]
    change (if endsWord before after then _ else _) =
      (if endsWord otherBefore otherAfter then _ else _) ↔ _
    cases endsWord before after <;> cases endsWord otherBefore otherAfter <;> decide
  · simp [lowerAt, sigma]

theorem length_lowerAt (before after otherBefore otherAfter : Text) (c : Char) :
    (lowerAt before c after).length = (lowerAt otherBefore c otherAfter).length := by
  rw [lowerAt, lowerAt]
  repeat' split
  all_goals rfl

/-- A text is lowered alike in two places exactly if each of its sigmas ends a word in both or in
none. -/
theorem lowerBetween_eq_iff {before after otherBefore otherAfter t : Text} :
    lowerBetween before t after = lowerBetween otherBefore t otherAfter ↔
      ∀ x y, t = x ++ 'Σ' :: y →
        endsWord (x.reverse ++ before) (y ++ after) =
          endsWord (x.reverse ++ otherBefore) (y ++ otherAfter) := by
  induction t generalizing before otherBefore with
  | nil => simp [lowerBetween]
  | cons c rest induction =>
      rw [lowerBetween, lowerBetween]
      constructor
      · intro same
        have parts := List.append_inj same (length_lowerAt _ _ _ _ c)
        intro x y shape
        cases x with
        | nil =>
            obtain ⟨rfl, rfl⟩ := List.cons.inj shape
            exact lowerAt_eq_iff.mp parts.1 rfl
        | cons d more =>
            obtain ⟨rfl, rfl⟩ := List.cons.inj shape
            have later := induction.mp parts.2 more y rfl
            simpa using later
      · intro alike
        have here : lowerAt before c (rest ++ after) =
            lowerAt otherBefore c (rest ++ otherAfter) := by
          rw [lowerAt_eq_iff]
          rintro rfl
          exact alike [] rest rfl
        have later : lowerBetween (c :: before) rest after =
            lowerBetween (c :: otherBefore) rest otherAfter := by
          rw [induction]
          rintro x y rfl
          simpa using alike (c :: x) y rfl
        rw [here, later]

/-! ## The two parts at a full stop -/

/-- Whether the last letter of a text is a capital sigma that is not alone in its word. -/
def endsInSigma (t : Text) : Bool :=
  match t.reverse.dropWhile isCaseIgnorable with
  | [] => false
  | c :: before => c = 'Σ' && meetsCased before

/-- Whether the first letter of a text is a capital sigma that no letter of its word follows. -/
def startsWithSigma (t : Text) : Bool :=
  match t.dropWhile isCaseIgnorable with
  | [] => false
  | c :: after => c = 'Σ' && !meetsCased after

theorem sigma_not_ignorable : ¬isCaseIgnorable 'Σ' = true := by decide +kernel

theorem startsWithSigma_append {ignorable : Text} (looked : ignorable.all isCaseIgnorable = true)
    (after : Text) : startsWithSigma (ignorable ++ 'Σ' :: after) = !meetsCased after := by
  rw [startsWithSigma, List.dropWhile_append_of_pos (List.all_eq_true.mp looked),
    List.dropWhile_cons_of_neg sigma_not_ignorable]
  rfl

theorem endsInSigma_append {ignorable : Text} (looked : ignorable.all isCaseIgnorable = true)
    (before : Text) : endsInSigma (before ++ 'Σ' :: ignorable) = meetsCased before.reverse := by
  have reversed : (before ++ 'Σ' :: ignorable).reverse =
      ignorable.reverse ++ 'Σ' :: before.reverse := by simp
  rw [endsInSigma, reversed, List.dropWhile_append_of_pos,
    List.dropWhile_cons_of_neg sigma_not_ignorable]
  · rfl
  · intro c member
    exact List.all_eq_true.mp looked c (List.mem_reverse.mp member)

theorem exists_of_startsWithSigma {t : Text} (sigma : startsWithSigma t = true) :
    ∃ ignorable after, t = ignorable ++ 'Σ' :: after ∧ ignorable.all isCaseIgnorable = true := by
  rw [startsWithSigma] at sigma
  split at sigma
  · cases sigma
  · rename_i c after found
    rw [Bool.and_eq_true, decide_eq_true_eq] at sigma
    refine ⟨t.takeWhile isCaseIgnorable, after, ?_, List.all_takeWhile⟩
    rw [← sigma.1, ← found, List.takeWhile_append_dropWhile]

theorem exists_of_endsInSigma {t : Text} (sigma : endsInSigma t = true) :
    ∃ before ignorable, t = before ++ 'Σ' :: ignorable ∧ ignorable.all isCaseIgnorable = true := by
  rw [endsInSigma] at sigma
  split at sigma
  · cases sigma
  · rename_i c before found
    rw [Bool.and_eq_true, decide_eq_true_eq] at sigma
    refine ⟨before.reverse, (t.reverse.takeWhile isCaseIgnorable).reverse, ?_, ?_⟩
    · rw [← List.reverse_inj, List.reverse_append, List.reverse_cons, List.reverse_reverse,
        List.reverse_reverse, List.append_assoc, List.singleton_append, ← sigma.1, ← found,
        List.takeWhile_append_dropWhile]
    · rw [List.all_reverse]
      exact List.all_takeWhile

/-- What stands before a full stop is lowered as it would be alone, unless it ends in a sigma and a
letter comes next. -/
theorem lowerBetween_before_dot_iff (a b : Text) :
    lowerBetween [] a ('.' :: b) = lower a ↔ (endsInSigma a && meetsCased b) = false := by
  rw [lower, lowerFrom_eq_lowerBetween, lowerBetween_eq_iff]
  constructor
  · intro alike
    rw [Bool.eq_false_iff, ne_eq, Bool.and_eq_true]
    rintro ⟨sigma, letter⟩
    rcases exists_of_endsInSigma sigma with ⟨x, y, rfl, looked⟩
    rw [endsInSigma_append looked] at sigma
    have same := alike x y rfl
    rw [endsWord, endsWord, meetsCased_append y ('.' :: b), if_pos looked, meetsCased_dot, letter,
      List.append_nil, List.append_nil, sigma, meetsCased_of_all looked] at same
    cases same
  · rintro apart x y rfl
    rw [endsWord, endsWord, meetsCased_append y ('.' :: b), List.append_nil, List.append_nil]
    split
    · rename_i looked
      rw [endsInSigma_append looked] at apart
      rw [meetsCased_dot, meetsCased_of_all looked]
      cases first : meetsCased x.reverse with
      | false => rfl
      | true =>
          rw [first, Bool.true_and] at apart
          rw [apart]
    · rfl

/-- What stands after a full stop is lowered as it would be alone, unless it starts with a sigma and
a letter came before. -/
theorem lowerFrom_after_dot_iff (a b : Text) :
    lowerFrom ('.' :: a.reverse) b = lower b ↔
      (meetsCased a.reverse && startsWithSigma b) = false := by
  rw [lower, lowerFrom_eq_lowerBetween, lowerFrom_eq_lowerBetween, lowerBetween_eq_iff]
  constructor
  · intro alike
    rw [Bool.eq_false_iff, ne_eq, Bool.and_eq_true]
    rintro ⟨letter, sigma⟩
    rcases exists_of_startsWithSigma sigma with ⟨x, y, rfl, looked⟩
    rw [startsWithSigma_append looked] at sigma
    rw [← List.all_reverse] at looked
    have same := alike x y rfl
    rw [endsWord, endsWord, meetsCased_append x.reverse ('.' :: a.reverse), if_pos looked,
      meetsCased_dot, letter, List.append_nil, List.append_nil, sigma, meetsCased_of_all looked]
      at same
    cases same
  · rintro apart x y rfl
    rw [endsWord, endsWord, meetsCased_append x.reverse ('.' :: a.reverse), List.append_nil,
      List.append_nil]
    split
    · rename_i looked
      rw [List.all_reverse] at looked
      rw [startsWithSigma_append looked] at apart
      rw [← List.all_reverse] at looked
      rw [meetsCased_dot, meetsCased_of_all looked, apart]
      rfl
    · rfl

/-! ## Sigmas -/

/-- The character without the distinction between the two small sigmas. -/
def plainSigma (c : Char) : Char := if c = 'ς' then 'σ' else c

theorem map_plainSigma_lowerAt (before after otherBefore otherAfter : Text) (c : Char) :
    (lowerAt before c after).map plainSigma =
      (lowerAt otherBefore c otherAfter).map plainSigma := by
  rw [lowerAt, lowerAt]
  repeat' split
  all_goals rfl

/-- A text is lowered to the same letters everywhere, the form of a sigma aside. -/
theorem map_plainSigma_lowerBetween (before after otherBefore otherAfter t : Text) :
    (lowerBetween before t after).map plainSigma =
      (lowerBetween otherBefore t otherAfter).map plainSigma := by
  induction t generalizing before otherBefore with
  | nil => rfl
  | cons c rest induction =>
      rw [lowerBetween, lowerBetween, List.map_append, List.map_append,
        map_plainSigma_lowerAt _ _ otherBefore (rest ++ otherAfter), induction _ (c :: otherBefore)]

end StyleCatalog.Text
