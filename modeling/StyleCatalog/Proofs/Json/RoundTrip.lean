import StyleCatalog.Proofs.Json.Tokens

/-! # Written JSON reads back

`Reads value t` says that `t` is read as `value` in front of whatever may follow it. The spellings
of a value are closed under blanks before tokens, so the two layouts are two ways to put the same
lemmas together.
-/

namespace StyleCatalog.Json

/-! ## Blanks between tokens -/

def IsGaps (t : Text) : Prop := ∀ c ∈ t, isGap c = true

theorem isGaps_nil : IsGaps [] := List.forall_mem_nil _

theorem skipGap_append {gaps : Text} (blank : IsGaps gaps) (t : Text) :
    skipGap (gaps ++ t) = skipGap t :=
  List.dropWhile_append_of_pos blank

theorem skipGap_cons {c : Char} (solid : isGap c = false) (t : Text) :
    skipGap (c :: t) = c :: t := by
  rw [skipGap, List.dropWhile_cons_of_neg (by simp [solid])]

theorem skipGap_skipGap (t : Text) : skipGap (skipGap t) = skipGap t :=
  List.dropWhile_idempotent isGap t

theorem isGaps_newLine (depth : Nat) : IsGaps (newLine depth) := by
  intro c member
  rcases List.mem_cons.mp member with rfl | space
  · rfl
  · rw [List.eq_of_mem_replicate space]
    rfl

theorem endsNumber_nil : EndsNumber [] := by
  rintro c ⟨⟩

theorem endsNumber_append {gaps t : Text} (blank : IsGaps gaps) (ends : EndsNumber t) :
    EndsNumber (gaps ++ t) := by
  cases gaps with
  | nil => exact ends
  | cons gap more =>
      have isBlank := blank gap List.mem_cons_self
      rintro c ⟨⟩
      simp only [isGap, Bool.or_eq_true, decide_eq_true_eq] at isBlank
      rcases isBlank with ((rfl | rfl) | rfl) | rfl <;> decide

theorem endsNumber_cons {c : Char} (closing : c ∈ [',', ']', '\x7d']) (t : Text) :
    EndsNumber (c :: t) := by
  rintro d ⟨⟩
  simp only [List.mem_cons, List.not_mem_nil, or_false] at closing
  rcases closing with rfl | rfl | rfl <;> decide

/-! ## Texts that read as a value -/

/-- The text reads as the value in front of everything that does not continue a number. Its length
bounds the steps. -/
def Reads (value : Json) (t : Text) : Prop :=
  ∀ steps rest, t.length ≤ steps → EndsNumber rest →
    readValue steps (t ++ rest) = some (value, rest)

/-- The text reads as the items of an array with its closing bracket. -/
def ReadsItems (items : List Json) (t : Text) : Prop :=
  ∀ steps rest, t.length ≤ steps → readItems steps (t ++ rest) = some (items, rest)

/-- The text reads as the fields of an object with its closing brace. -/
def ReadsFields (fields : List (Text × Json)) (t : Text) : Prop :=
  ∀ steps rest, t.length ≤ steps → readFields steps (t ++ rest) = some (fields, rest)

theorem readValue_skipGap (steps : Nat) (t : Text) :
    readValue steps (skipGap t) = readValue steps t := by
  cases steps with
  | zero => rfl
  | succ steps => rw [readValue, readValue, skipGap_skipGap]

theorem readItems_skipGap (steps : Nat) (t : Text) :
    readItems steps (skipGap t) = readItems steps t := by
  cases steps with
  | zero => rfl
  | succ steps => rw [readItems, readItems, readValue_skipGap]

theorem readFields_skipGap (steps : Nat) (t : Text) :
    readFields steps (skipGap t) = readFields steps t := by
  cases steps with
  | zero => rfl
  | succ steps => rw [readFields, readFields, skipGap_skipGap]

variable {value : Json} {items : List Json} {fields : List (Text × Json)} {gaps t u : Text}

theorem Reads.after_gaps (reads : Reads value t) (blank : IsGaps gaps) :
    Reads value (gaps ++ t) := by
  intro steps rest enough ends
  rw [List.length_append] at enough
  rw [← readValue_skipGap, List.append_assoc, skipGap_append blank, readValue_skipGap]
  exact reads steps rest (by omega) ends

theorem ReadsFields.after_gaps (reads : ReadsFields fields t) (blank : IsGaps gaps) :
    ReadsFields fields (gaps ++ t) := by
  intro steps rest enough
  rw [List.length_append] at enough
  rw [← readFields_skipGap, List.append_assoc, skipGap_append blank, readFields_skipGap]
  exact reads steps rest (by omega)

/-! ## Values without parts -/

theorem reads_null : Reads .null "null".toList := by
  rintro (_ | steps) rest enough -
  · cases enough
  · rfl

theorem reads_bool (truth : Bool) : Reads (.bool truth) (boolWord truth) := by
  rintro (_ | steps) rest enough -
  · cases truth <;> cases enough
  · cases truth <;> rfl

theorem quote_append (value t : Text) :
    quote value ++ t = '"' :: (value.flatMap escapeChar ++ '"' :: t) := by
  simp [quote]

theorem reads_string (value : Text) : Reads (.string value) (quote value) := by
  rintro (_ | steps) rest enough -
  · cases enough
  · rw [quote_append, readValue, skipGap_cons (by decide)]
    simp [readString_quoted]

theorem exists_cons_ofInt (n : Int) :
    ∃ c more, Text.ofInt n = c :: more ∧ (c.isDigit = true ∨ c = '-') := by
  cases n with
  | ofNat k =>
      rcases List.exists_cons_of_ne_nil (Text.ofNat_ne_nil k) with ⟨c, more, digits⟩
      have digit : c.isDigit = true := Text.isDigit_of_mem_ofNat (digits ▸ List.mem_cons_self)
      exact ⟨c, more, digits, .inl digit⟩
  | negSucc k => exact ⟨'-', _, rfl, .inr rfl⟩

theorem readValue_of_number {c : Char} (start : c.isDigit = true ∨ c = '-') (steps : Nat)
    (t : Text) : readValue (steps + 1) (c :: t) = readNumber (c :: t) := by
  have others : ['"', '[', '\x7b', 'n', 't', 'f', ' ', '\n', '\t', '\r'].all
      (fun d => !(d.isDigit || d = '-')) = true := by decide
  have different : ∀ d ∈ ['"', '[', '\x7b', 'n', 't', 'f', ' ', '\n', '\t', '\r'], c ≠ d := by
    rintro d member rfl
    have other := List.all_eq_true.mp others c member
    rcases start with digit | rfl
    · simp [digit] at other
    · simp at other
  simp only [List.forall_mem_cons] at different
  have solid : isGap c = false := by simp [isGap, different]
  rw [readValue, skipGap_cons solid]
  simp [different]

theorem reads_integer {n : Int} (fits : FitsWord n) : Reads (.integer n) (Text.ofInt n) := by
  intro steps rest enough ends
  rcases exists_cons_ofInt n with ⟨c, more, written, start⟩
  cases steps with
  | zero =>
      rw [written] at enough
      cases enough
  | succ steps =>
      have number := readNumber_ofInt fits ends
      rw [written, List.cons_append] at number ⊢
      rw [readValue_of_number start, number]

/-! ## Arrays -/

theorem readItems_closed (steps : Nat) (t : Text) : readItems steps (']' :: t) = none := by
  rcases steps with _ | _ | steps <;> rfl

theorem readItems_last {steps : Nat} {rest after : Text}
    (first : readValue steps t = some (value, rest)) (closes : skipGap rest = ']' :: after) :
    readItems (steps + 1) t = some ([value], after) := by
  simp [readItems, first, closes]

theorem readItems_cons {steps : Nat} {rest more : Text}
    (first : readValue steps t = some (value, rest)) (goesOn : skipGap rest = ',' :: more) :
    readItems (steps + 1) t =
      (readItems steps more).map fun read => (value :: read.1, read.2) := by
  simp [readItems, first, goesOn]

theorem reads_array_nil : Reads (.array []) "[]".toList := by
  rintro (_ | steps) rest enough -
  · cases enough
  · rfl

theorem ReadsItems.reads_array (reads : ReadsItems items t) :
    Reads (.array items) ('[' :: t) := by
  rintro (_ | steps) rest enough -
  · cases enough
  · have inside := reads steps rest (by simpa using enough)
    rw [← readItems_skipGap] at inside
    -- An array that closes at once has no items to read.
    have stays : ∀ after, skipGap (t ++ rest) ≠ ']' :: after := by
      intro after closed
      rw [closed, readItems_closed] at inside
      cases inside
    rw [List.cons_append, readValue, skipGap_cons (by decide)]
    simp [inside]

theorem Reads.last_item (reads : Reads value t) (blank : IsGaps gaps) :
    ReadsItems [value] (t ++ gaps ++ [']']) := by
  rintro (_ | steps) rest enough
  · simp at enough
  · have shape : t ++ gaps ++ [']'] ++ rest = t ++ (gaps ++ ']' :: rest) := by simp
    have ends := endsNumber_append blank (endsNumber_cons (by decide : ']' ∈ _) rest)
    have first := reads steps _ (by simp at enough; omega) ends
    rw [shape]
    apply readItems_last first
    rw [skipGap_append blank, skipGap_cons (by decide)]

theorem Reads.cons_item (reads : Reads value t) (more : ReadsItems items u) :
    ReadsItems (value :: items) (t ++ ',' :: u) := by
  rintro (_ | steps) rest enough
  · simp at enough
  · have shape : t ++ ',' :: u ++ rest = t ++ ',' :: (u ++ rest) := by simp
    have ends := endsNumber_cons (by decide : ',' ∈ _) (u ++ rest)
    have first := reads steps _ (by simp at enough; omega) ends
    rw [shape, readItems_cons first (skipGap_cons (by decide) _),
      more steps rest (by simp at enough; omega)]
    rfl

/-! ## Objects -/

theorem readFields_closed (steps : Nat) (t : Text) : readFields steps ('\x7d' :: t) = none := by
  rcases steps with _ | steps <;> rfl

theorem readFields_last {steps : Nat} {rest after : Text} (key : Text)
    (first : readValue steps t = some (value, rest)) (closes : skipGap rest = '\x7d' :: after) :
    readFields (steps + 1) (quote key ++ ':' :: t) = some ([(key, value)], after) := by
  have colon : skipGap (':' :: t) = ':' :: t := skipGap_cons (by decide) t
  rw [quote_append, readFields, skipGap_cons (by decide)]
  simp [readString_quoted, colon, first, closes]

theorem readFields_cons {steps : Nat} {rest more : Text} (key : Text)
    (first : readValue steps t = some (value, rest)) (goesOn : skipGap rest = ',' :: more) :
    readFields (steps + 1) (quote key ++ ':' :: t) =
      (readFields steps more).map fun read => ((key, value) :: read.1, read.2) := by
  have colon : skipGap (':' :: t) = ':' :: t := skipGap_cons (by decide) t
  rw [quote_append, readFields, skipGap_cons (by decide)]
  simp [readString_quoted, colon, first, goesOn]

theorem reads_object_nil : Reads (.object []) ['\x7b', '\x7d'] := by
  rintro (_ | steps) rest enough -
  · cases enough
  · rfl

theorem ReadsFields.reads_object (reads : ReadsFields fields t) :
    Reads (.object fields) ('\x7b' :: t) := by
  rintro (_ | steps) rest enough -
  · cases enough
  · have inside := reads steps rest (by simpa using enough)
    rw [← readFields_skipGap] at inside
    have stays : ∀ after, skipGap (t ++ rest) ≠ '\x7d' :: after := by
      intro after closed
      rw [closed, readFields_closed] at inside
      cases inside
    rw [List.cons_append, readValue, skipGap_cons (by decide)]
    simp [inside]

theorem Reads.last_field (key : Text) (reads : Reads value t) (blank : IsGaps gaps) :
    ReadsFields [(key, value)] (quote key ++ ':' :: (t ++ gaps ++ ['\x7d'])) := by
  rintro (_ | steps) rest enough
  · simp at enough
  · have shape : quote key ++ ':' :: (t ++ gaps ++ ['\x7d']) ++ rest =
        quote key ++ ':' :: (t ++ (gaps ++ '\x7d' :: rest)) := by simp
    have ends := endsNumber_append blank (endsNumber_cons (by decide : '\x7d' ∈ _) rest)
    have first := reads steps _ (by simp at enough; omega) ends
    rw [shape]
    apply readFields_last key first
    rw [skipGap_append blank, skipGap_cons (by decide)]

theorem Reads.cons_field (key : Text) (reads : Reads value t) (more : ReadsFields fields u) :
    ReadsFields ((key, value) :: fields) (quote key ++ ':' :: (t ++ ',' :: u)) := by
  rintro (_ | steps) rest enough
  · simp at enough
  · have shape : quote key ++ ':' :: (t ++ ',' :: u) ++ rest =
        quote key ++ ':' :: (t ++ ',' :: (u ++ rest)) := by simp
    have ends := endsNumber_cons (by decide : ',' ∈ _) (u ++ rest)
    have first := reads steps _ (by simp at enough; omega) ends
    rw [shape, readFields_cons key first (skipGap_cons (by decide) _),
      more steps rest (by simp at enough; omega)]
    rfl

/-! ## The two layouts -/

/-- A value in the form in which it is exchanged: its integers fit into 64 bits, it has no other
numbers, and no object in it names a key twice. -/
inductive Proper : Json → Prop
  | null : Proper .null
  | bool (truth : Bool) : Proper (.bool truth)
  | integer {n : Int} (fits : FitsWord n) : Proper (.integer n)
  | string (value : Text) : Proper (.string value)
  | array {items : List Json} (all : ∀ item ∈ items, Proper item) : Proper (.array items)
  | object {fields : List (Text × Json)} (distinct : (fields.map Prod.fst).Nodup)
      (all : ∀ field ∈ fields, Proper field.2) : Proper (.object fields)

theorem readsItems_compact (item : Json) (rest : List Json)
    (all : ∀ other ∈ item :: rest, Reads other other.compact) :
    ReadsItems (item :: rest) (compactItems (item :: rest) ++ [']']) := by
  induction rest generalizing item with
  | nil => simpa [compactItems] using
      (all item List.mem_cons_self).last_item isGaps_nil
  | cons second others induction =>
      have more := induction second fun other member => all other (List.mem_cons_of_mem _ member)
      simpa [compactItems] using (all item List.mem_cons_self).cons_item more

theorem readsFields_compact (field : Text × Json) (rest : List (Text × Json))
    (all : ∀ other ∈ field :: rest, Reads other.2 other.2.compact) :
    ReadsFields (field :: rest) (compactFields (field :: rest) ++ ['\x7d']) := by
  induction rest generalizing field with
  | nil => simpa [compactFields] using
      (all field List.mem_cons_self).last_field field.1 isGaps_nil
  | cons second others induction =>
      have more := induction second fun other member => all other (List.mem_cons_of_mem _ member)
      simpa [compactFields] using (all field List.mem_cons_self).cons_field field.1 more

theorem Proper.reads_compact (proper : Proper value) : Reads value value.compact := by
  induction proper with
  | null => exact reads_null
  | bool truth => exact reads_bool truth
  | integer fits => exact reads_integer fits
  | string value => exact reads_string value
  | @array items _ induction =>
      rw [compact]
      cases items with
      | nil => exact reads_array_nil
      | cons item rest => exact (readsItems_compact item rest induction).reads_array
  | @object fields _ _ induction =>
      rw [compact]
      cases fields with
      | nil => exact reads_object_nil
      | cons field rest => exact (readsFields_compact field rest induction).reads_object

theorem readsItems_pretty (depth : Nat) (item : Json) (rest : List Json)
    (all : ∀ other ∈ item :: rest, Reads other (other.pretty (depth + 1))) :
    ReadsItems (item :: rest) (newLine (depth + 1) ++ item.pretty (depth + 1) ++
      prettyItems depth rest ++ newLine depth ++ [']']) := by
  have first := (all item List.mem_cons_self).after_gaps (isGaps_newLine (depth + 1))
  induction rest generalizing item with
  | nil => simpa [prettyItems] using first.last_item (isGaps_newLine depth)
  | cons second others induction =>
      have later := fun other member => all other (List.mem_cons_of_mem item member)
      have more := induction second later
        ((later second List.mem_cons_self).after_gaps (isGaps_newLine (depth + 1)))
      simpa [prettyItems] using first.cons_item more

theorem readsFields_pretty (depth : Nat) (field : Text × Json) (rest : List (Text × Json))
    (all : ∀ other ∈ field :: rest, Reads other.2 (other.2.pretty (depth + 1))) :
    ReadsFields (field :: rest) (newLine (depth + 1) ++ quote field.1 ++ ':' :: ' ' ::
      field.2.pretty (depth + 1) ++ prettyFields depth rest ++ newLine depth ++ ['\x7d']) := by
  have space : IsGaps [' '] := by simp [IsGaps, isGap]
  have first := (all field List.mem_cons_self).after_gaps space
  induction rest generalizing field with
  | nil =>
      have last := (first.last_field field.1 (isGaps_newLine depth)).after_gaps
        (isGaps_newLine (depth + 1))
      simpa [prettyFields] using last
  | cons second others induction =>
      have later := fun other member => all other (List.mem_cons_of_mem field member)
      have more := induction second later ((later second List.mem_cons_self).after_gaps space)
      have both := (first.cons_field field.1 more).after_gaps (isGaps_newLine (depth + 1))
      simpa [prettyFields] using both

theorem Proper.reads_pretty (proper : Proper value) (depth : Nat) :
    Reads value (value.pretty depth) := by
  induction proper generalizing depth with
  | null => exact reads_null
  | bool truth => exact reads_bool truth
  | integer fits => exact reads_integer fits
  | string value => exact reads_string value
  | @array items _ induction =>
      cases items with
      | nil => exact reads_array_nil
      | cons item rest =>
          rw [pretty]
          exact (readsItems_pretty depth item rest
            fun other member => induction other member (depth + 1)).reads_array
  | @object fields _ _ induction =>
      cases fields with
      | nil => exact reads_object_nil
      | cons field rest =>
          rw [pretty]
          exact (readsFields_pretty depth field rest
            fun other member => induction other member (depth + 1)).reads_object

/-! ## A single line -/

theorem Reads.parse?_append (reads : Reads value t) (blank : IsGaps gaps) :
    parse? (t ++ gaps) = some value := by
  have ends := endsNumber_append blank endsNumber_nil
  have nothing := skipGap_append blank []
  rw [List.append_nil] at ends nothing
  have whole := reads (2 * (t ++ gaps).length + 2) gaps (by simp; omega) ends
  rw [parse?, whole]
  dsimp only
  rw [nothing]
  rfl

end StyleCatalog.Json
