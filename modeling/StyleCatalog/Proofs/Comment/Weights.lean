import Mathlib.Tactic.Ring
import StyleCatalog.Comment.Entry
import StyleCatalog.Proofs.Text.Numerals

/-! # Weights as they are written

A text is a weight exactly when it spells an integer of 32 bits, white space around it aside:
`parse_reads_spellings`. The whole number is read before its range is looked at, but reading within
the range digit by digit comes to the same, `read?_eq_readOn?`.
-/

namespace StyleCatalog.Weight

/-- A spelling of an integer: decimal digits behind one sign or none. -/
inductive Spells : Text → Int → Prop
  | unsigned {digits : Text} {n : Nat} (denotes : Text.Denotes digits n) : Spells digits n
  | plus {digits : Text} {n : Nat} (denotes : Text.Denotes digits n) : Spells ('+' :: digits) n
  | minus {digits : Text} {n : Nat} (denotes : Text.Denotes digits n) : Spells ('-' :: digits) (-n)

/-! ## Reading integers -/

theorem readDigits?_eq_some_iff {t : Text} {n : Nat} :
    readDigits? t = some n ↔ Text.Denotes t n := by
  rw [Text.denotes_iff, readDigits?, Option.ite_none_right_eq_some, Option.some_inj,
    Bool.and_eq_true, Bool.not_eq_true', List.isEmpty_eq_false_iff, List.all_eq_true, and_assoc]

theorem not_denotes_of_sign {sign : Char} (noDigit : sign.isDigit = false) (rest : Text) (n : Nat) :
    ¬Text.Denotes (sign :: rest) n := by
  intro denotes
  rw [denotes.isDigit sign List.mem_cons_self] at noDigit
  cases noDigit

theorem readInteger?_eq_some_iff {t : Text} {n : Int} : readInteger? t = some n ↔ Spells t n := by
  constructor
  · intro read
    rw [readInteger?.eq_def] at read
    split at read <;> rcases Option.map_eq_some_iff.mp read with ⟨k, digits, rfl⟩
    · exact .plus (readDigits?_eq_some_iff.mp digits)
    · exact .minus (readDigits?_eq_some_iff.mp digits)
    · exact .unsigned (readDigits?_eq_some_iff.mp digits)
  · intro spells
    cases spells with
    | unsigned denotes =>
        rw [readInteger?.eq_def]
        split
        · exact absurd denotes (not_denotes_of_sign (by decide) _ _)
        · exact absurd denotes (not_denotes_of_sign (by decide) _ _)
        · rw [readDigits?_eq_some_iff.mpr denotes]
          rfl
    | plus denotes => rw [readInteger?, readDigits?_eq_some_iff.mpr denotes]; rfl
    | minus denotes => rw [readInteger?, readDigits?_eq_some_iff.mpr denotes]; rfl

/-! ## Reading weights -/

theorem ofInt?_value (weight : Weight) : ofInt? weight.value = some weight := by
  rw [ofInt?, dif_pos ⟨weight.atLeast, weight.atMost⟩]

theorem ofInt?_eq_some_iff {n : Int} {weight : Weight} :
    ofInt? n = some weight ↔ weight.value = n := by
  constructor
  · intro found
    rw [ofInt?, Option.dite_none_right_eq_some] at found
    rcases found with ⟨bounds, same⟩
    rw [← Option.some.inj same]
  · rintro rfl
    exact ofInt?_value weight

theorem read?_eq_some_iff {t : Text} {weight : Weight} :
    read? t = some weight ↔ Spells t weight.value := by
  rw [read?, Option.bind_eq_some_iff]
  constructor
  · rintro ⟨n, integer, inRange⟩
    rw [ofInt?_eq_some_iff.mp inRange]
    exact readInteger?_eq_some_iff.mp integer
  · intro spells
    exact ⟨weight.value, readInteger?_eq_some_iff.mpr spells, ofInt?_value weight⟩

theorem parse_eq_ok_iff {t : Text} {weight : Weight} :
    parse t = .ok weight ↔ Spells t.trim weight.value := by
  rw [← read?_eq_some_iff, parse]
  cases read? t.trim with
  | none => simp
  | some other => simp

theorem parse_eq_error {t : Text} (refused : ∀ weight, parse t ≠ .ok weight) :
    parse t = .error (.invalidWeight t.trim) := by
  have unread : read? t.trim = none := by
    rw [Option.eq_none_iff_forall_ne_some]
    intro weight found
    exact refused weight (parse_eq_ok_iff.mpr (read?_eq_some_iff.mp found))
  rw [parse, unread]

theorem spells_ofInt (n : Int) : Spells (Text.ofInt n) n := by
  cases n with
  | ofNat k => exact .unsigned (Text.denotes_ofNat k)
  | negSucc k => exact .minus (Text.denotes_ofNat (k + 1))

/-- A weight is read back from its decimal form. -/
theorem parse_ofInt (weight : Weight) : parse (Text.ofInt weight.value) = .ok weight := by
  rw [parse_eq_ok_iff, Text.trim_ofInt]
  exact spells_ofInt weight.value

theorem parse_padded {before after : Text} (beforeBlank : before.isBlankLine = true)
    (afterBlank : after.isBlankLine = true) (weight : Weight) :
    parse (before ++ (Text.ofInt weight.value ++ after)) = .ok weight := by
  have trimmed : (before ++ (Text.ofInt weight.value ++ after)).trim =
      (Text.ofInt weight.value).trim := by
    rw [Text.trim, Text.trimStart_append_of_isBlankLine beforeBlank, ← Text.trim,
      Text.trim_append_of_isBlankLine _ afterBlank]
  rw [← parse_ofInt weight, parse, trimmed, parse]

/-- A text is read as a weight exactly when, white space around it aside, it spells an integer of
32 bits, and that integer is the weight. Any other text is refused and reported without the white
space. The decimal form of a weight is among the spellings, behind and before any white space. -/
theorem parse_reads_spellings :
    (∀ (t : Text) (n : Int), (∃ weight, parse t = .ok weight ∧ weight.value = n) ↔
        Spells t.trim n ∧ -2 ^ 31 ≤ n ∧ n ≤ 2 ^ 31 - 1) ∧
      (∀ t : Text, (¬∃ n, Spells t.trim n ∧ -2 ^ 31 ≤ n ∧ n ≤ 2 ^ 31 - 1) →
        parse t = .error (.invalidWeight t.trim)) ∧
      ∀ (weight : Weight) (before after : Text), before.isBlankLine = true →
        after.isBlankLine = true →
          parse (before ++ (Text.ofInt weight.value ++ after)) = .ok weight := by
  have inRange (weight : Weight) : -2 ^ 31 ≤ weight.value ∧ weight.value ≤ 2 ^ 31 - 1 :=
    ⟨weight.atLeast, weight.atMost⟩
  refine ⟨fun t n => ⟨?_, ?_⟩, fun t unspelled => ?_, ?_⟩
  · rintro ⟨weight, read, rfl⟩
    exact ⟨parse_eq_ok_iff.mp read, inRange weight⟩
  · rintro ⟨spells, atLeast, atMost⟩
    exact ⟨⟨n, atLeast, atMost⟩, parse_eq_ok_iff.mpr spells, rfl⟩
  · apply parse_eq_error
    intro weight read
    exact unspelled ⟨weight.value, parse_eq_ok_iff.mp read, inRange weight⟩
  · intro weight before after beforeBlank afterBlank
    exact parse_padded beforeBlank afterBlank weight

/-- The lowest weight is read behind a wide blank and with zeros before its digits. One more than the
highest weight is reported without the blank behind it. -/
theorem parse_ends_of_range :
    (∃ weight, parse "\u3000-0002147483648\n".toList = .ok weight ∧ weight.value = -2 ^ 31) ∧
      parse "+2147483648 ".toList = .error (.invalidWeight "+2147483648".toList) := by
  constructor
  · have denotes : Text.Denotes "0002147483648".toList (2 ^ 31) :=
      readDigits?_eq_some_iff.mp (by decide)
    have trimmed : Text.trim "\u3000-0002147483648\n".toList = '-' :: "0002147483648".toList := by
      decide
    apply (parse_reads_spellings.1 _ _).mpr
    rw [trimmed]
    exact ⟨.minus denotes, by decide, by decide⟩
  · have trimmed : Text.trim "+2147483648 ".toList = '+' :: "2147483648".toList := by decide
    have refused := parse_reads_spellings.2.1 "+2147483648 ".toList
    rw [trimmed] at refused
    apply refused
    rintro ⟨n, spells, -, atMost⟩
    cases spells with
    | unsigned denotes => exact not_denotes_of_sign (by decide) _ _ denotes
    | plus denotes =>
        have value : Text.digitsValue "2147483648".toList = 2 ^ 31 := by decide
        rw [← denotes.value_eq, value] at atMost
        exact absurd atMost (by decide)

/-! ## Reading within the range -/

/-- Read digits on behind `total`, under the sign of the whole number. Each digit takes two steps,
ten times what was read and then the digit itself, and the first step that leaves the range ends
the reading. -/
def readOn? (sign : Int) (total : Weight) : Text → Option Weight
  | [] => some total
  | c :: rest =>
    (ofInt? (total.value * 10)).bind fun scaled =>
      (ofInt? (scaled.value + sign * Text.digitValue c)).bind fun next => readOn? sign next rest

section Signed

variable {sign : Int} (unit : sign = 1 ∨ sign = -1)

include unit

/-- Under one sign no number comes back into the range. -/
theorem ofInt?_eq_none_of_le {m n : Nat} (less : m ≤ n) (outside : ofInt? (sign * m) = none) :
    ofInt? (sign * n) = none := by
  rw [ofInt?, dite_eq_right_iff] at outside ⊢
  intro inside
  have between : -2147483648 ≤ sign * m ∧ sign * m ≤ 2147483647 := by
    rcases unit with rfl | rfl <;> omega
  cases outside between

/-- The range need not be looked at before the last digit is read. -/
theorem readOn?_eq_ofInt? {total : Weight} {m : Nat} (magnitude : total.value = sign * m)
    (digits : Text) :
    readOn? sign total digits =
      ofInt? (sign * (10 ^ digits.length * m + Text.digitsValue digits : Nat)) := by
  induction digits generalizing total m with
  | nil =>
      have same : 10 ^ ([] : Text).length * m + Text.digitsValue [] = m := by
        simp [Text.digitsValue]
      rw [readOn?, same, ← magnitude, ofInt?_value]
  | cons c rest induction =>
      have whole : 10 ^ (c :: rest).length * m + Text.digitsValue (c :: rest) =
          10 ^ rest.length * (10 * m + Text.digitValue c) + Text.digitsValue rest := by
        rw [Text.digitsValue_cons, List.length_cons]
        ring
      have grows : 10 * m + Text.digitValue c ≤
          10 ^ rest.length * (10 * m + Text.digitValue c) + Text.digitsValue rest :=
        (Nat.le_mul_of_pos_left _ (Nat.pow_pos (by decide))).trans (Nat.le_add_right _ _)
      have scaledValue : total.value * 10 = sign * (10 * m : Nat) := by
        rw [magnitude]
        push_cast
        ring
      rw [readOn?, whole, scaledValue]
      cases scales : ofInt? (sign * (10 * m : Nat)) with
      | none => exact (ofInt?_eq_none_of_le unit ((Nat.le_add_right _ _).trans grows) scales).symm
      | some scaled =>
          have nextValue : scaled.value + sign * Text.digitValue c =
              sign * (10 * m + Text.digitValue c : Nat) := by
            rw [ofInt?_eq_some_iff.mp scales]
            push_cast
            ring
          rw [Option.bind_some, nextValue]
          cases adds : ofInt? (sign * (10 * m + Text.digitValue c : Nat)) with
          | none => exact (ofInt?_eq_none_of_le unit grows adds).symm
          | some next => exact induction (ofInt?_eq_some_iff.mp adds)

theorem readOn?_zero (digits : Text) :
    readOn? sign zero digits = ofInt? (sign * Text.digitsValue digits) := by
  have start : zero.value = sign * (0 : Nat) := by simp [zero]
  rw [readOn?_eq_ofInt? unit start, Nat.mul_zero, Nat.zero_add]

end Signed

/-- Reading digit by digit within the range finds the weight that is found by reading the whole
number first, and neither end of the range is missed or overrun. -/
theorem read?_eq_readOn? {digits : Text} (nonempty : digits ≠ [])
    (all : ∀ c ∈ digits, c.isDigit = true) :
    read? digits = readOn? 1 zero digits ∧ read? ('+' :: digits) = readOn? 1 zero digits ∧
      read? ('-' :: digits) = readOn? (-1) zero digits := by
  have denotes := Text.denotes_digitsValue nonempty all
  rw [readOn?_zero (.inl rfl), readOn?_zero (.inr rfl), Int.one_mul, Int.neg_one_mul]
  refine ⟨?_, ?_, ?_⟩
  · rw [read?, readInteger?_eq_some_iff.mpr (.unsigned denotes), Option.bind_some]
  · rw [read?, readInteger?_eq_some_iff.mpr (.plus denotes), Option.bind_some]
  · rw [read?, readInteger?_eq_some_iff.mpr (.minus denotes), Option.bind_some]

end StyleCatalog.Weight
