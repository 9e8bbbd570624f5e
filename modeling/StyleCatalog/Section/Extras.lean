import StyleCatalog.Text.Order

/-! # Extra parameters of a section

The parameters that are no field of a section are kept beside its fields, sorted by name and each
name once.
-/

namespace StyleCatalog

/-- Named values in ascending order of their names. -/
structure Extras where
  entries : List (Text × Text)
  ascending : entries.Pairwise fun a b => Text.compare a.1 b.1 = .lt

namespace Extras

def empty : Extras := ⟨[], .nil⟩

instance : Inhabited Extras := ⟨empty⟩

@[ext] theorem ext {a b : Extras} (h : a.entries = b.entries) : a = b := by
  cases a
  cases b
  simpa using h

instance : DecidableEq Extras := fun a b =>
  decidable_of_iff (a.entries = b.entries) ⟨ext, fun h => h ▸ rfl⟩

def put (name value : Text) : List (Text × Text) → List (Text × Text)
  | [] => [(name, value)]
  | entry :: rest =>
    match Text.compare name entry.1 with
    | .lt => (name, value) :: entry :: rest
    | .eq => (name, value) :: rest
    | .gt => entry :: put name value rest

theorem mem_put {name value : Text} {entries : List (Text × Text)} {entry : Text × Text}
    (h : entry ∈ put name value entries) : entry = (name, value) ∨ entry ∈ entries := by
  induction entries with
  | nil => simpa [put] using h
  | cons head rest induction =>
    unfold put at h
    split at h
    · simpa using h
    · rcases List.mem_cons.mp h with same | old
      · exact .inl same
      · exact .inr (List.mem_cons_of_mem _ old)
    · rcases List.mem_cons.mp h with same | new
      · exact .inr (same ▸ List.mem_cons_self)
      · exact (induction new).imp id (List.mem_cons_of_mem _)

theorem put_ascending {name value : Text} {entries : List (Text × Text)}
    (h : entries.Pairwise fun a b => Text.compare a.1 b.1 = .lt) :
    (put name value entries).Pairwise fun a b => Text.compare a.1 b.1 = .lt := by
  induction entries with
  | nil => simp [put]
  | cons head rest induction =>
    obtain ⟨before, sorted⟩ := List.pairwise_cons.mp h
    unfold put
    split
    · rename_i less
      refine List.pairwise_cons.mpr ⟨fun entry member => ?_, h⟩
      rcases List.mem_cons.mp member with same | old
      · exact same ▸ less
      · exact Text.compare_lt_trans less (before entry old)
    · rename_i tie
      have same : name = head.1 := Text.compare_eq_eq_iff.mp tie
      exact List.pairwise_cons.mpr ⟨fun entry member => same ▸ before entry member, sorted⟩
    · rename_i greater
      refine List.pairwise_cons.mpr ⟨fun entry member => ?_, induction sorted⟩
      rcases mem_put member with same | old
      · exact same ▸ Text.compare_gt_iff.mp greater
      · exact before entry old

def insert (extras : Extras) (name value : Text) : Extras :=
  ⟨put name value extras.entries, put_ascending extras.ascending⟩

def names (extras : Extras) : List Text := extras.entries.map Prod.fst

end Extras

end StyleCatalog
