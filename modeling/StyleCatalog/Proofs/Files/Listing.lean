import Mathlib.Data.List.Nodup
import StyleCatalog.Proofs.Files.Places

/-! # The order in which directories list their entries

A directory lists its entries in some order. Two trees that differ in such orders only are related
by `Tree.Relisted`; every place holds the same in both, up to the same difference, and every path
leads to it: `Disk.get_relisted`.
-/

namespace StyleCatalog

namespace Tree

/-! ## Trees that a disk can hold -/

mutual

/-- A tree that a disk can hold: each directory lists a name once, and every name can stand between
two slashes and is not too long. -/
def isWellFormed : Tree → Bool
  | .file _ => true
  | .directory entries => (entries.map Prod.fst).Nodup && areWellFormed entries

/-- Entries whose names and trees a disk can hold. -/
def areWellFormed : List (Text × Tree) → Bool
  | [] => true
  | (name, tree) :: rest =>
    (Path.isFileName name && Text.byteLength name ≤ Disk.nameLimit && isWellFormed tree) &&
      areWellFormed rest

end

/-- An entry that a disk can hold. -/
structure EntryWellFormed (entry : Text × Tree) : Prop where
  named : Path.isFileName entry.1 = true
  short : Text.byteLength entry.1 ≤ Disk.nameLimit
  inner : entry.2.isWellFormed = true

theorem areWellFormed_iff {entries : List (Text × Tree)} :
    areWellFormed entries = true ↔ ∀ entry ∈ entries, EntryWellFormed entry := by
  induction entries with
  | nil => simp [areWellFormed]
  | cons entry rest induction =>
      rw [areWellFormed, Bool.and_eq_true, induction, List.forall_mem_cons]
      simp only [Bool.and_eq_true, decide_eq_true_eq]
      exact and_congr_left fun _ =>
        ⟨fun parts => ⟨parts.1.1, parts.1.2, parts.2⟩, fun whole =>
          ⟨⟨whole.named, whole.short⟩, whole.inner⟩⟩

theorem isWellFormed_directory_iff {entries : List (Text × Tree)} :
    (directory entries).isWellFormed = true ↔
      (entries.map Prod.fst).Nodup ∧ ∀ entry ∈ entries, EntryWellFormed entry := by
  rw [isWellFormed, Bool.and_eq_true, decide_eq_true_eq, areWellFormed_iff]

/-! ## Looking up names -/

theorem mem_of_find? {name : Text} {entries : List (Text × Tree)} {tree : Tree}
    (found : find? name entries = some tree) : (name, tree) ∈ entries := by
  induction entries with
  | nil => cases found
  | cons entry rest induction =>
      rw [find?] at found
      by_cases same : entry.1 = name
      · rw [if_pos same] at found
        rw [← same, ← Option.some.inj found]
        exact List.mem_cons_self
      · rw [if_neg same] at found
        exact List.mem_cons_of_mem _ (induction found)

theorem find?_of_mem {entries : List (Text × Tree)} (distinct : (entries.map Prod.fst).Nodup)
    {entry : Text × Tree} (member : entry ∈ entries) : find? entry.1 entries = some entry.2 := by
  induction entries with
  | nil => cases member
  | cons first rest induction =>
      rw [List.map_cons, List.nodup_cons] at distinct
      rw [find?]
      rcases List.mem_cons.mp member with same | later
      · rw [same, if_pos rfl]
      · have different : first.1 ≠ entry.1 := fun same =>
          distinct.1 (same ▸ List.mem_map_of_mem later)
        rw [if_neg different, induction distinct.2 later]

theorem find?_eq_some_iff {entries : List (Text × Tree)}
    (distinct : (entries.map Prod.fst).Nodup) {name : Text} {tree : Tree} :
    find? name entries = some tree ↔ (name, tree) ∈ entries :=
  ⟨mem_of_find?, find?_of_mem distinct⟩

theorem find?_eq_of_perm {entries others : List (Text × Tree)} (permuted : entries.Perm others)
    (distinct : (entries.map Prod.fst).Nodup) (name : Text) :
    find? name entries = find? name others := by
  have otherDistinct := (permuted.map Prod.fst).nodup_iff.mp distinct
  ext tree
  rw [find?_eq_some_iff distinct, find?_eq_some_iff otherDistinct]
  exact permuted.mem_iff

theorem isWellFormed_of_get? {place : List Text} {tree inner : Tree}
    (wellFormed : tree.isWellFormed = true) (found : tree.get? place = some inner) :
    inner.isWellFormed = true := by
  induction place generalizing tree with
  | nil =>
      rw [get?] at found
      exact Option.some.inj found ▸ wellFormed
  | cons name rest induction =>
      cases tree with
      | file bytes => cases found
      | directory entries =>
          rcases Option.bind_eq_some_iff.mp found with ⟨entry, listed, found⟩
          have inside := (isWellFormed_directory_iff.mp wellFormed).2 _ (mem_of_find? listed)
          exact induction inside.inner found

/-- Another tree under a name shows in the look-up of that name at most. -/
theorem find?_replaced (before rest : List (Text × Tree)) (name : Text) (tree other : Tree)
    (wanted : Text) :
    find? wanted (before ++ (name, tree) :: rest) = find? wanted (before ++ (name, other) :: rest) ∨
      find? wanted (before ++ (name, tree) :: rest) = some tree ∧
        find? wanted (before ++ (name, other) :: rest) = some other := by
  induction before with
  | nil =>
      by_cases same : name = wanted
      · simp [find?, same]
      · simp [find?, same]
  | cons entry more induction =>
      by_cases same : entry.1 = wanted
      · simp [find?, same]
      · simpa [find?, same] using induction

/-! ## Other orders -/

/-- Trees that differ at most in the order in which directories list their entries, at any level. -/
inductive Relisted : Tree → Tree → Prop
  | refl (tree : Tree) : Relisted tree tree
  | permuted {entries others : List (Text × Tree)} (permuted : entries.Perm others) :
      Relisted (.directory entries) (.directory others)
  | inside {tree other : Tree} (inner : Relisted tree other) (before : List (Text × Tree))
      (name : Text) (rest : List (Text × Tree)) :
      Relisted (.directory (before ++ (name, tree) :: rest))
        (.directory (before ++ (name, other) :: rest))
  | trans {first second third : Tree} (left : Relisted first second)
      (right : Relisted second third) : Relisted first third

theorem Relisted.symm {tree other : Tree} (relisted : Relisted tree other) :
    Relisted other tree := by
  induction relisted with
  | refl tree => exact .refl tree
  | permuted permuted => exact .permuted permuted.symm
  | inside _ before name rest induction => exact .inside induction before name rest
  | trans _ _ first second => exact second.trans first

theorem Relisted.isWellFormed {tree other : Tree} (relisted : Relisted tree other)
    (wellFormed : tree.isWellFormed = true) : other.isWellFormed = true := by
  induction relisted with
  | refl => exact wellFormed
  | permuted permuted =>
      rw [isWellFormed_directory_iff] at wellFormed ⊢
      refine ⟨(permuted.map Prod.fst).nodup_iff.mp wellFormed.1, fun entry member => ?_⟩
      exact wellFormed.2 entry (permuted.mem_iff.mpr member)
  | inside inner before name rest induction =>
      rw [isWellFormed_directory_iff, List.forall_mem_append, List.forall_mem_cons] at wellFormed ⊢
      rcases wellFormed with ⟨distinct, above, ⟨named, short, tree⟩, below⟩
      refine ⟨?_, above, ⟨named, short, induction tree⟩, below⟩
      rw [List.map_append, List.map_cons] at distinct ⊢
      exact distinct
  | trans _ _ first second => exact second (first wellFormed)

theorem Relisted.optionTrans {first second third : Option Tree}
    (left : Option.Rel Relisted first second) (right : Option.Rel Relisted second third) :
    Option.Rel Relisted first third := by
  cases left with
  | none => exact right
  | some here =>
      cases right with
      | some there => exact .some (here.trans there)

theorem Relisted.optionRefl (found : Option Tree) : Option.Rel Relisted found found := by
  cases found with
  | none => exact .none
  | some tree => exact .some (.refl tree)

/-- Every place holds the same in both trees, up to the order of entries. -/
theorem Relisted.get? {tree other : Tree} (relisted : Relisted tree other)
    (wellFormed : tree.isWellFormed = true) (place : List Text) :
    Option.Rel Relisted (tree.get? place) (other.get? place) := by
  induction relisted generalizing place with
  | refl tree => exact optionRefl _
  | permuted permuted =>
      cases place with
      | nil => exact .some (.permuted permuted)
      | cons name rest =>
          have distinct := (isWellFormed_directory_iff.mp wellFormed).1
          rw [Tree.get?, Tree.get?, find?_eq_of_perm permuted distinct]
          exact optionRefl _
  | @inside tree other inner before name rest induction =>
      cases place with
      | nil => exact .some (.inside inner before name rest)
      | cons wanted more =>
          have entries := (isWellFormed_directory_iff.mp wellFormed).2
          have inTree : tree.isWellFormed = true := (entries (name, tree) (by simp)).inner
          rw [Tree.get?, Tree.get?]
          rcases find?_replaced before rest name tree other wanted with same | ⟨found, there⟩
          · rw [same]
            exact optionRefl _
          · rw [found, there]
            exact induction inTree more
  | trans left _ first second =>
      exact optionTrans (first wellFormed place) (second (left.isWellFormed wellFormed) place)

/-- Nothing stands at a place in either tree, or something does in both. -/
theorem Relisted.get?_cases {tree other : Tree} (relisted : Relisted tree other)
    (wellFormed : tree.isWellFormed = true) (place : List Text) :
    (tree.get? place = none ∧ other.get? place = none) ∨
      ∃ found listed, tree.get? place = some found ∧ other.get? place = some listed ∧
        Relisted found listed := by
  have here := relisted.get? wellFormed place
  generalize tree.get? place = found at here ⊢
  generalize other.get? place = listed at here ⊢
  cases here with
  | none => exact .inl ⟨rfl, rfl⟩
  | some related => exact .inr ⟨_, _, rfl, rfl, related⟩

theorem Relisted.same_kind {tree other : Tree} (relisted : Relisted tree other) :
    (∃ bytes, tree = .file bytes ∧ other = .file bytes) ∨
      ∃ entries others, tree = .directory entries ∧ other = .directory others := by
  induction relisted with
  | refl tree =>
      cases tree with
      | file bytes => exact .inl ⟨bytes, rfl, rfl⟩
      | directory entries => exact .inr ⟨entries, entries, rfl, rfl⟩
  | permuted => exact .inr ⟨_, _, rfl, rfl⟩
  | inside => exact .inr ⟨_, _, rfl, rfl⟩
  | trans _ _ first second =>
      rcases first with ⟨bytes, rfl, rfl⟩ | ⟨entries, others, rfl, rfl⟩
      · rcases second with ⟨_, same, rfl⟩ | ⟨_, _, impossible, -⟩
        · exact .inl ⟨bytes, rfl, same.symm⟩
        · cases impossible
      · rcases second with ⟨_, impossible, -⟩ | ⟨_, last, -, rfl⟩
        · cases impossible
        · exact .inr ⟨entries, last, rfl, rfl⟩

end Tree

namespace Disk

/-- Disks that differ at most in the order in which directories list their entries. -/
structure Relisted (disk other : Disk) : Prop where
  root : disk.root.Relisted other.root
  workingDirectory : other.workingDirectory = disk.workingDirectory

variable {disk other : Disk}

theorem Relisted.symm (relisted : disk.Relisted other) : other.Relisted disk :=
  ⟨relisted.root.symm, relisted.workingDirectory.symm⟩

theorem follow_relisted (relisted : disk.Relisted other)
    (wellFormed : disk.root.isWellFormed = true) (pieces place : List Text) :
    other.follow pieces place = disk.follow pieces place := by
  induction pieces generalizing place with
  | nil => rfl
  | cons piece rest induction =>
      rw [follow, follow]
      rcases relisted.root.get?_cases wellFormed place with
        ⟨absent, alsoAbsent⟩ | ⟨tree, listed, found, there, related⟩
      · rw [absent, alsoAbsent]
      · rw [found, there]
        rcases related.same_kind with ⟨bytes, rfl, rfl⟩ | ⟨entries, others, rfl, rfl⟩
        · rfl
        · have known : (Tree.find? piece others).isSome = (Tree.find? piece entries).isSome := by
            rw [← Tree.get?_append_name found, ← Tree.get?_append_name there]
            rcases relisted.root.get?_cases wellFormed (place ++ [piece]) with
              ⟨absent, alsoAbsent⟩ | ⟨_, _, inside, alsoInside, -⟩
            · rw [absent, alsoAbsent]
            · rw [inside, alsoInside]
              rfl
          simp only [induction, known]

/-- Every path leads to the same in both disks, up to the order of entries, or fails alike. -/
theorem get_relisted (relisted : disk.Relisted other)
    (wellFormed : disk.root.isWellFormed = true) (path : Text) :
    (∃ fault, disk.get path = .error fault ∧ other.get path = .error fault) ∨
      ∃ tree listed, disk.get path = .ok tree ∧ other.get path = .ok listed ∧
        tree.Relisted listed := by
  have located : other.locate path = disk.locate path := by
    rw [locate, locate, start_eq, start_eq, relisted.workingDirectory]
    simp only [follow_relisted relisted wellFormed]
  rw [get, get, located]
  cases disk.locate path with
  | error fault => exact .inl ⟨fault, rfl, rfl⟩
  | ok place =>
      dsimp only
      rcases relisted.root.get?_cases wellFormed place with
        ⟨absent, alsoAbsent⟩ | ⟨tree, listed, found, there, related⟩
      · rw [absent, alsoAbsent]
        exact .inl ⟨.missing, rfl, rfl⟩
      · rw [found, there]
        exact .inr ⟨tree, listed, rfl, rfl, related⟩

end Disk

end StyleCatalog
