import StyleCatalog.Proofs.Comment.Weights
import StyleCatalog.Proofs.Json.RoundTrip
import StyleCatalog.Section.Record

/-! # Records of sections

The record of a section names no key twice as long as its extra parameters avoid the standard keys.
Every field is then found under its key, so the record describes the section it was made from.
-/

namespace StyleCatalog

/-! ## Fields by key -/

namespace Json

variable {key : Text} {value : Json} {fields : List (Text × Json)}

theorem lookup_of_not_mem (absent : key ∉ fields.map Prod.fst) : lookup key fields = none := by
  induction fields with
  | nil => rfl
  | cons field rest induction =>
      rw [List.map_cons, List.mem_cons, not_or] at absent
      rw [lookup, induction absent.2]
      exact if_neg (Ne.symm absent.1)

theorem lookup_of_mem (distinct : (fields.map Prod.fst).Nodup) (member : (key, value) ∈ fields) :
    lookup key fields = some value := by
  induction fields with
  | nil => cases member
  | cons field rest induction =>
      rw [List.map_cons, List.nodup_cons] at distinct
      rcases List.mem_cons.mp member with rfl | later
      · rw [lookup, lookup_of_not_mem distinct.1]
        exact if_pos rfl
      · rw [lookup, induction distinct.2 later]

end Json

section Lookup

variable {key : Text} {fields : List (Text × Json)}

theorem requiredText?_of_mem {t : Text} (distinct : (fields.map Prod.fst).Nodup)
    (member : (key, .string t) ∈ fields) : requiredText? key fields = some t := by
  rw [requiredText?, Json.lookup_of_mem distinct member]
  rfl

theorem requiredBool?_of_mem {truth : Bool} (distinct : (fields.map Prod.fst).Nodup)
    (member : (key, .bool truth) ∈ fields) : requiredBool? key fields = some truth := by
  rw [requiredBool?, Json.lookup_of_mem distinct member]
  rfl

theorem defaultedText?_of_mem {t : Text} (distinct : (fields.map Prod.fst).Nodup)
    (member : (key, .string t) ∈ fields) : defaultedText? key fields = some t := by
  rw [defaultedText?, Json.lookup_of_mem distinct member]
  rfl

theorem optionalText?_of_mem {value : Option Text}
    (distinct : (fields.map Prod.fst).Nodup)
    (present : ∀ t, value = some t → (key, .string t) ∈ fields)
    (absent : value = none → key ∉ fields.map Prod.fst) :
    optionalText? key fields = some value := by
  cases value with
  | none => rw [optionalText?, Json.lookup_of_not_mem (absent rfl)]
  | some t => rw [optionalText?, Json.lookup_of_mem distinct (present t rfl)]

end Lookup

theorem readAll?_map {α : Type} {read : Json → Option α} {write : α → Json} {items : List α}
    (back : ∀ item ∈ items, read (write item) = some item) :
    readAll? read (items.map write) = some items := by
  induction items with
  | nil => rfl
  | cons item rest induction =>
      rw [List.forall_mem_cons] at back
      rw [List.map_cons, readAll?, back.1, induction back.2]
      rfl

/-! ## Optional fields -/

theorem keys_optionalField (key : Text) (value : Option Text) :
    ((optionalField key value).map Prod.fst).Sublist [key] := by
  cases value with
  | none => exact List.nil_sublist [key]
  | some t => exact List.Sublist.refl [key]

theorem proper_optionalField (key : Text) (value : Option Text) :
    ∀ field ∈ optionalField key value, field.2.Proper := by
  intro field member
  cases value with
  | none => cases member
  | some t =>
      rw [List.mem_singleton.mp member]
      exact .string t

/-! ## Modifiers -/

namespace Modifier

variable (modifier : Modifier)

def fields : List (Text × Json) :=
  [("id".toList, .integer modifier.id.toNat), ("name".toList, .string modifier.name),
    ("description".toList, .string modifier.description),
    ("className".toList, .string modifier.className)] ++
  optionalField "markup".toList modifier.markup

theorem toJson_eq : modifier.toJson = .object modifier.fields := rfl

theorem nodup_keys : (modifier.fields.map Prod.fst).Nodup := by
  have keys : (["id", "name", "description", "className", "markup"].map String.toList).Nodup := by
    decide
  apply List.Nodup.sublist _ keys
  rw [fields, List.map_append]
  exact (List.Sublist.refl _).append (keys_optionalField _ _)

theorem toJson_proper : modifier.toJson.Proper := by
  have fits : Json.FitsWord modifier.id.toNat := by
    have bound := modifier.id.toNat_lt
    constructor <;> omega
  apply Json.Proper.object modifier.nodup_keys
  simp only [fields, List.forall_mem_append, List.forall_mem_cons, List.not_mem_nil,
    false_implies, implies_true, and_true]
  exact ⟨⟨.integer fits, .string _, .string _, .string _⟩, proper_optionalField _ _⟩

theorem idOf?_toNat : idOf? (.integer modifier.id.toNat) = some modifier.id := by
  have bound := modifier.id.toNat_lt
  have inside : (0 ≤ (modifier.id.toNat : Int) &&
      (modifier.id.toNat : Int) ≤ 0xFFFFFFFFFFFFFFFF) = true := by
    simp only [Bool.and_eq_true, decide_eq_true_eq]
    omega
  simp only [idOf?, Json.integer?, Option.bind_some, inside, if_true, Int.toNat_natCast,
    UInt64.ofNat_toNat]

theorem ofJson?_toJson : ofJson? modifier.toJson = some modifier := by
  have distinct := modifier.nodup_keys
  have id : Json.lookup "id".toList modifier.fields = some (.integer modifier.id.toNat) :=
    Json.lookup_of_mem distinct (by simp [fields])
  have name : requiredText? "name".toList modifier.fields = some modifier.name :=
    requiredText?_of_mem distinct (by simp [fields])
  have description : requiredText? "description".toList modifier.fields =
      some modifier.description := requiredText?_of_mem distinct (by simp [fields])
  have className : requiredText? "className".toList modifier.fields = some modifier.className :=
    requiredText?_of_mem distinct (by simp [fields])
  have markup : optionalText? "markup".toList modifier.fields = some modifier.markup := by
    apply optionalText?_of_mem distinct
    · intro t some
      simp [fields, some, optionalField]
    · intro none
      simp [fields, none, optionalField]
  simp only [ofJson?, toJson_eq, Json.fields?, Option.bind_eq_bind, Option.bind_some, id,
    idOf?_toNat, name, description, className, markup, Option.pure_def]

end Modifier

/-! ## Extra parameters -/

namespace Extras

theorem nodup_names (extras : Extras) : extras.names.Nodup := by
  rw [names, List.Nodup, List.pairwise_map]
  apply extras.ascending.imp
  intro a b less same
  rw [same, Text.compare_self] at less
  cases less

theorem put_of_forall_lt {name value : Text} {entries : List (Text × Text)}
    (later : ∀ entry ∈ entries, Text.compare entry.1 name = .lt) :
    put name value entries = entries ++ [(name, value)] := by
  induction entries with
  | nil => rfl
  | cons entry rest induction =>
      have behind := Text.compare_gt_iff.mpr (later entry List.mem_cons_self)
      rw [put, behind, List.cons_append,
        induction fun other member => later other (List.mem_cons_of_mem entry member)]

end Extras

theorem readExtras?_standard {fields : List (Text × Json)} (rest : List (Text × Json))
    (extras : Extras) (standard : ∀ field ∈ fields, field.1 ∈ standardKeys) :
    readExtras? extras (fields ++ rest) = readExtras? extras rest := by
  induction fields with
  | nil => rfl
  | cons field more induction =>
      rw [List.forall_mem_cons] at standard
      rw [List.cons_append, readExtras?.eq_def]
      dsimp only
      rw [if_pos (List.contains_iff_mem.mpr standard.1), induction standard.2]

/-- Reading in ascending order appends. -/
theorem readExtras?_ascending {entries : List (Text × Text)} (extras : Extras)
    (ascending : (extras.entries ++ entries).Pairwise fun a b => Text.compare a.1 b.1 = .lt)
    (extra : ∀ entry ∈ entries, entry.1 ∉ standardKeys) :
    readExtras? extras (entries.map fun entry => (entry.1, .string entry.2)) =
      some ⟨extras.entries ++ entries, ascending⟩ := by
  induction entries generalizing extras with
  | nil =>
      rw [List.map_nil, readExtras?, Option.some.injEq]
      exact Extras.ext (List.append_nil _).symm
  | cons entry rest induction =>
      rw [List.forall_mem_cons] at extra
      have grown : (extras.insert entry.1 entry.2).entries = extras.entries ++ [entry] := by
        apply Extras.put_of_forall_lt
        intro other member
        exact (List.pairwise_append.mp ascending).2.2 other member entry List.mem_cons_self
      have appended : (extras.insert entry.1 entry.2).entries ++ rest =
          extras.entries ++ entry :: rest := by
        rw [grown, List.append_assoc, List.singleton_append]
      rw [List.map_cons, readExtras?, if_neg (by simpa using extra.1),
        induction _ (appended ▸ ascending) extra.2]
      exact congrArg some (Extras.ext appended)

/-! ## Sections -/

namespace Section

variable {s : Section}

def standardFields (s : Section) : List (Text × Json) :=
  [("header".toList, .string s.header), ("description".toList, .string s.description),
    ("modifiers".toList, .array (s.modifiers.map Modifier.toJson)),
    ("deprecated".toList, .bool s.deprecated), ("experimental".toList, .bool s.experimental),
    ("reference".toList, .string s.reference)] ++
  optionalField "stringReference".toList s.stringReference ++
  [("weight".toList, .integer s.weight.value)] ++
  optionalField "markup".toList s.markup ++
  optionalField "css".toList s.css ++
  [("file".toList, .string s.file), ("syntax".toList, .string s.dialect)]

def fields (s : Section) : List (Text × Json) :=
  s.standardFields ++ s.extras.entries.map fun entry => (entry.1, .string entry.2)

theorem toJson_eq (s : Section) : s.toJson = .object s.fields := rfl

/-- The extra parameters stay clear of the standard keys. -/
def AvoidsStandardKeys (s : Section) : Prop := ∀ name ∈ s.extras.names, name ∉ standardKeys

theorem keys_standardFields (s : Section) :
    (s.standardFields.map Prod.fst).Sublist standardKeys := by
  simp only [standardFields, List.map_append]
  exact (((((List.Sublist.refl _).append (keys_optionalField _ _)).append
    (List.Sublist.refl _)).append (keys_optionalField _ _)).append
    (keys_optionalField _ _)).append (List.Sublist.refl _)

theorem keys_fields (s : Section) :
    s.fields.map Prod.fst = s.standardFields.map Prod.fst ++ s.extras.names := by
  simp [fields, Extras.names]

theorem AvoidsStandardKeys.nodup_keys (avoids : s.AvoidsStandardKeys) :
    (s.fields.map Prod.fst).Nodup := by
  have standard : standardKeys.Nodup := by decide
  rw [keys_fields, List.nodup_append]
  refine ⟨.sublist s.keys_standardFields standard, s.extras.nodup_names, ?_⟩
  rintro key isStandard _ isExtra rfl
  exact avoids key isExtra (s.keys_standardFields.subset isStandard)

theorem AvoidsStandardKeys.toJson_proper (avoids : s.AvoidsStandardKeys) : s.toJson.Proper := by
  have weight : Json.FitsWord s.weight.value := by
    have least := s.weight.atLeast
    have most := s.weight.atMost
    constructor <;> omega
  have modifiers : ∀ item ∈ s.modifiers.map Modifier.toJson, item.Proper :=
    List.forall_mem_map.mpr fun modifier _ => modifier.toJson_proper
  apply Json.Proper.object avoids.nodup_keys
  simp only [fields, standardFields, List.forall_mem_append, List.forall_mem_cons,
    List.not_mem_nil, false_implies, implies_true, and_true, List.forall_mem_map]
  exact ⟨⟨⟨⟨⟨⟨⟨.string _, .string _, .array modifiers, .bool _, .bool _, .string _⟩,
    proper_optionalField _ _⟩, .integer weight⟩, proper_optionalField _ _⟩,
    proper_optionalField _ _⟩, .string _, .string _⟩, fun entry _ => .string entry.2⟩

theorem readExtras?_fields (avoids : s.AvoidsStandardKeys) :
    readExtras? .empty s.fields = some s.extras := by
  have standard : ∀ field ∈ s.standardFields, field.1 ∈ standardKeys := by
    intro field member
    exact s.keys_standardFields.subset (List.mem_map_of_mem member)
  have extra : ∀ entry ∈ s.extras.entries, entry.1 ∉ standardKeys := by
    intro entry member
    exact avoids entry.1 (List.mem_map_of_mem member)
  rw [fields, readExtras?_standard _ _ standard]
  exact readExtras?_ascending .empty s.extras.ascending extra

theorem AvoidsStandardKeys.optionalText?_fields {key : Text} {value : Option Text}
    (avoids : s.AvoidsStandardKeys) (standard : key ∈ standardKeys)
    (present : ∀ t, value = some t → (key, .string t) ∈ s.standardFields)
    (absent : value = none → key ∉ s.standardFields.map Prod.fst) :
    optionalText? key s.fields = some value := by
  apply optionalText?_of_mem avoids.nodup_keys
  · intro t some
    exact List.mem_append_left _ (present t some)
  · intro none
    rw [keys_fields, List.mem_append, not_or]
    exact ⟨absent none, fun extra => avoids key extra standard⟩

theorem AvoidsStandardKeys.ofJson?_toJson (avoids : s.AvoidsStandardKeys) :
    ofJson? s.toJson = some s := by
  have distinct := avoids.nodup_keys
  have header : requiredText? "header".toList s.fields = some s.header :=
    requiredText?_of_mem distinct (by simp [fields, standardFields])
  have description : requiredText? "description".toList s.fields = some s.description :=
    requiredText?_of_mem distinct (by simp [fields, standardFields])
  have modifiers : Json.lookup "modifiers".toList s.fields =
      some (.array (s.modifiers.map Modifier.toJson)) :=
    Json.lookup_of_mem distinct (by simp [fields, standardFields])
  have eachModifier : readAll? Modifier.ofJson? (s.modifiers.map Modifier.toJson) =
      some s.modifiers := readAll?_map fun modifier _ => modifier.ofJson?_toJson
  have deprecated : requiredBool? "deprecated".toList s.fields = some s.deprecated :=
    requiredBool?_of_mem distinct (by simp [fields, standardFields])
  have experimental : requiredBool? "experimental".toList s.fields = some s.experimental :=
    requiredBool?_of_mem distinct (by simp [fields, standardFields])
  have reference : requiredText? "reference".toList s.fields = some s.reference :=
    requiredText?_of_mem distinct (by simp [fields, standardFields])
  have stringReference : optionalText? "stringReference".toList s.fields =
      some s.stringReference := by
    apply avoids.optionalText?_fields (by decide)
    · intro t some
      simp [standardFields, optionalField, some]
    · intro none
      simp [standardFields, optionalField, none]
  have weight : defaultedWeight? s.fields = some s.weight := by
    have found : Json.lookup "weight".toList s.fields = some (.integer s.weight.value) :=
      Json.lookup_of_mem distinct (by simp [fields, standardFields])
    rw [defaultedWeight?, found]
    exact s.weight.ofInt?_value
  have markup : optionalText? "markup".toList s.fields = some s.markup := by
    apply avoids.optionalText?_fields (by decide)
    · intro t some
      simp [standardFields, optionalField, some]
    · intro none
      simp [standardFields, optionalField, none]
  have css : optionalText? "css".toList s.fields = some s.css := by
    apply avoids.optionalText?_fields (by decide)
    · intro t some
      simp [standardFields, optionalField, some]
    · intro none
      simp [standardFields, optionalField, none]
  have file : defaultedText? "file".toList s.fields = some s.file :=
    defaultedText?_of_mem distinct (by simp [fields, standardFields])
  have dialect : defaultedText? "syntax".toList s.fields = some s.dialect :=
    defaultedText?_of_mem distinct (by simp [fields, standardFields])
  have extras := readExtras?_fields avoids
  rw [toJson_eq, ofJson?, Json.fields?, Option.bind_eq_bind, Option.bind_some, header,
    description, modifiers, deprecated, experimental, reference, stringReference, weight, markup,
    css, file, dialect, extras]
  change (readAll? Modifier.ofJson? (s.modifiers.map Modifier.toJson)).bind _ = some s
  rw [eachModifier]
  rfl

end Section

end StyleCatalog
