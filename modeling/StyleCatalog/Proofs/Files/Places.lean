import StyleCatalog.Files.Disk
import StyleCatalog.Proofs.Files.Paths

/-! # The places that paths lead to

A path is followed piece by piece, so what it leads to can be put together from its parts. The path
of an entry leads to the entry, unless it is too long: `Disk.get_join`.
-/

namespace StyleCatalog

namespace Tree

theorem get?_append (place others : List Text) (tree : Tree) :
    get? (place ++ others) tree = (get? place tree).bind (get? others) := by
  induction place generalizing tree with
  | nil => rfl
  | cons name rest induction =>
      cases tree with
      | file bytes => rfl
      | directory entries =>
          rw [List.cons_append, get?, get?]
          cases find? name entries with
          | none => rfl
          | some inner => exact induction inner

theorem get?_append_name {place : List Text} {tree : Tree} {entries : List (Text × Tree)}
    (directory : get? place tree = some (.directory entries)) (name : Text) :
    get? (place ++ [name]) tree = find? name entries := by
  rw [get?_append, directory]
  change (find? name entries).bind (get? []) = _
  cases find? name entries <;> rfl

end Tree

namespace Disk

variable {disk : Disk}

/-! ## Following -/

theorem follow_append (disk : Disk) (pieces others place : List Text) :
    disk.follow (pieces ++ others) place =
      (disk.follow pieces place).bind (disk.follow others) := by
  induction pieces generalizing place with
  | nil => rfl
  | cons piece rest induction =>
      rw [List.cons_append, follow, follow]
      cases disk.root.get? place with
      | none => rfl
      | some tree =>
          cases tree with
          | file bytes => rfl
          | directory entries =>
              simp only [induction]
              repeat' split
              all_goals rfl

theorem eq_of_follow_empty {place inner : List Text}
    (reached : disk.follow [[]] place = .ok inner) : inner = place := by
  rw [follow] at reached
  cases at_ : disk.root.get? place with
  | none => rw [at_] at reached; cases reached
  | some tree =>
      rw [at_] at reached
      cases tree with
      | file bytes => cases reached
      | directory entries => exact (Except.ok.inj reached).symm

theorem follow_name {place : List Text} {entries : List (Text × Tree)} {name : Text} {tree : Tree}
    (directory : disk.root.get? place = some (.directory entries))
    (found : Tree.find? name entries = some tree) (named : Path.isFileName name = true)
    (short : Text.byteLength name ≤ nameLimit) :
    disk.follow [name] place = .ok (place ++ [name]) := by
  simp only [Path.isFileName, Bool.and_eq_true, Bool.not_eq_true', decide_eq_true_eq] at named
  simp [follow, directory, found, named, Nat.not_lt.mpr short]

/-! ## Starting -/

theorem start_eq (disk : Disk) (path : Text) :
    disk.start path =
      if path.head? = some '/' then ([], (path.splitAtChar '/').tail)
      else (disk.workingDirectory, path.splitAtChar '/') := by
  cases path with
  | nil => rfl
  | cons c rest =>
      by_cases slash : c = '/'
      · rw [slash, List.head?_cons, if_pos rfl]
        rfl
      · have relative : (c :: rest).head? ≠ some '/' := by simpa using slash
        rw [if_neg relative, start]
        intro _ absolute
        exact slash (List.cons.inj absolute).1

/-- The path of an entry starts like that of the directory, and its last piece is the name. -/
theorem exists_start_join (disk : Disk) {directory name : Text} (some : directory ≠ [])
    (named : Path.isFileName name = true) :
    ∃ place pieces, disk.start (Path.join directory name) = (place, pieces ++ [name]) ∧
      (disk.start directory = (place, pieces) ∨
        disk.start directory = (place, pieces ++ [[]])) := by
  rcases Path.exists_pieces_join some named with ⟨pieces, nonempty, joined, shape⟩
  rw [start_eq, start_eq, Path.head?_join some, joined]
  by_cases absolute : directory.head? = Option.some '/'
  · rw [if_pos absolute, if_pos absolute]
    refine ⟨[], pieces.tail, by rw [List.tail_append_of_ne_nil nonempty], ?_⟩
    exact shape.imp (fun shape => by rw [shape])
      fun shape => by rw [shape, List.tail_append_of_ne_nil nonempty]
  · rw [if_neg absolute, if_neg absolute]
    exact ⟨_, pieces, rfl, shape.imp (fun shape => by rw [shape]) fun shape => by rw [shape]⟩

/-! ## Looking up -/

theorem get_eq_ok_iff {path : Text} {tree : Tree} :
    disk.get path = .ok tree ↔
      ∃ place, disk.locate path = .ok place ∧ disk.root.get? place = some tree := by
  rw [get]
  cases disk.locate path with
  | error fault => simp
  | ok place => cases found : disk.root.get? place <;> simp [found]

theorem locate_eq_ok_iff {path : Text} {place : List Text} :
    disk.locate path = .ok place ↔
      path ≠ [] ∧ Text.byteLength path ≤ pathLimit ∧
        disk.follow (disk.start path).2 (disk.start path).1 = .ok place := by
  rw [locate]
  by_cases empty : path.isEmpty = true
  · simp [List.isEmpty_iff.mp empty]
  · by_cases long : pathLimit < Text.byteLength path
    · simp [empty, long, Nat.not_le.mpr long]
    · simp [long, Nat.le_of_not_lt long, List.isEmpty_iff.not.mp empty]

/-- The path of an entry leads to the entry, unless it is too long. -/
theorem get_join {directory name : Text} {entries : List (Text × Tree)} {tree : Tree}
    (isDirectory : disk.get directory = .ok (.directory entries))
    (found : Tree.find? name entries = some tree) (named : Path.isFileName name = true)
    (short : Text.byteLength name ≤ nameLimit) :
    disk.get (Path.join directory name) =
      if pathLimit < Text.byteLength (Path.join directory name) then .error .nameTooLong
      else .ok tree := by
  rcases get_eq_ok_iff.mp isDirectory with ⟨place, located, at_⟩
  rcases locate_eq_ok_iff.mp located with ⟨some, -, reached⟩
  rcases disk.exists_start_join some named with ⟨origin, pieces, joined, shape⟩
  have inner : disk.follow pieces origin = .ok place := by
    rcases shape with shape | shape
    · rw [shape] at reached
      exact reached
    · rw [shape, follow_append] at reached
      cases before : disk.follow pieces origin with
      | error fault => rw [before] at reached; cases reached
      | ok below =>
          rw [before] at reached
          rw [eq_of_follow_empty reached]
  have nonempty := Path.join_ne_nil some name
  by_cases long : pathLimit < Text.byteLength (Path.join directory name)
  · rw [if_pos long, get, locate, if_neg (by simpa using nonempty), if_pos long]
  · rw [if_neg long, get_eq_ok_iff]
    refine ⟨place ++ [name], locate_eq_ok_iff.mpr ⟨nonempty, Nat.le_of_not_lt long, ?_⟩, ?_⟩
    · rw [joined, follow_append, inner]
      exact follow_name at_ found named short
    · rw [Tree.get?_append_name at_, found]

end Disk

end StyleCatalog
