import Mathlib.Data.List.Forall2
import StyleCatalog.Catalog.Sources
import StyleCatalog.Proofs.Files.Listing

/-! # Scanning for stylesheets

A scan gives exactly the accepted files below a directory, each once and in ascending order, and so
it does not show the order in which directories list their entries:
`Settings.stylesheets_exact`.
-/

namespace StyleCatalog

/-! ## What stands below a directory -/

namespace Disk

/-- Whether a path leads to a directory. One that is too long leads nowhere. -/
def isDirectory (disk : Disk) (path : Text) : Bool :=
  match disk.get path with
  | .ok (.directory _) => true
  | _ => false

/-- The paths below a directory are those of its entries and those below these. Each is spelled from
the path of the directory. -/
inductive Below (disk : Disk) : Text → Text → Prop
  | entry {path : Text} {entries : List (Text × Tree)} {entry : Text × Tree}
      (isDirectory : disk.get path = .ok (.directory entries)) (listed : entry ∈ entries) :
      Below disk path (Path.join path entry.1)
  | deeper {path below : Text} {entries : List (Text × Tree)} {entry : Text × Tree}
      (isDirectory : disk.get path = .ok (.directory entries)) (listed : entry ∈ entries)
      (inner : Below disk (Path.join path entry.1) below) : Below disk path below

/-- A tree is what a path leads to, if the path is not too long. -/
def StandsAt (disk : Disk) (tree : Tree) (path : Text) : Prop :=
  disk.get path = if pathLimit < Text.byteLength path then .error .nameTooLong else .ok tree

variable {disk : Disk} {path below : Text} {entries : List (Text × Tree)}

theorem below_iff (isDirectory : disk.get path = .ok (.directory entries)) :
    disk.Below path below ↔
      ∃ entry ∈ entries, below = Path.join path entry.1 ∨
        disk.Below (Path.join path entry.1) below := by
  constructor
  · intro stands
    cases stands with
    | @entry _ listing entry here listed =>
        cases isDirectory.symm.trans here
        exact ⟨entry, listed, .inl rfl⟩
    | @deeper _ _ listing entry here listed inner =>
        cases isDirectory.symm.trans here
        exact ⟨entry, listed, .inr inner⟩
  · rintro ⟨entry, listed, rfl | inner⟩
    · exact .entry isDirectory listed
    · exact .deeper isDirectory listed inner

theorem not_below (noDirectory : disk.isDirectory path = false) : ¬disk.Below path below := by
  have absurdity {entries : List (Text × Tree)} (here : disk.get path = .ok (.directory entries)) :
      False := by
    rw [isDirectory, here] at noDirectory
    cases noDirectory
  intro stands
  cases stands with
  | entry here => exact absurdity here
  | deeper here => exact absurdity here

theorem standsAt_join (isDirectory : disk.get path = .ok (.directory entries))
    (wellFormed : (Tree.directory entries).isWellFormed = true) {entry : Text × Tree}
    (listed : entry ∈ entries) : disk.StandsAt entry.2 (Path.join path entry.1) := by
  rcases Tree.isWellFormed_directory_iff.mp wellFormed with ⟨distinct, inside⟩
  exact get_join isDirectory (Tree.find?_of_mem distinct listed) (inside entry listed).named
    (inside entry listed).short

theorem isWellFormed_of_get {tree : Tree} (wellFormed : disk.root.isWellFormed = true)
    (found : disk.get path = .ok tree) : tree.isWellFormed = true := by
  rcases get_eq_ok_iff.mp found with ⟨place, -, found⟩
  exact Tree.isWellFormed_of_get? wellFormed found

/-! ### Other orders -/

variable {other : Disk}

theorem isDirectory_relisted (relisted : disk.Relisted other)
    (wellFormed : disk.root.isWellFormed = true) (path : Text) :
    other.isDirectory path = disk.isDirectory path := by
  rw [isDirectory, isDirectory]
  rcases get_relisted relisted wellFormed path with
    ⟨fault, failed, alsoFailed⟩ | ⟨tree, listed, found, there, related⟩
  · rw [failed, alsoFailed]
  · rw [found, there]
    rcases related.same_kind with ⟨bytes, rfl, rfl⟩ | ⟨entries, others, rfl, rfl⟩ <;> rfl

theorem exists_listed_relisted (relisted : disk.Relisted other)
    (wellFormed : disk.root.isWellFormed = true)
    (isDirectory : disk.get path = .ok (.directory entries)) {entry : Text × Tree}
    (listed : entry ∈ entries) :
    ∃ others, other.get path = .ok (.directory others) ∧ ∃ copy ∈ others, copy.1 = entry.1 := by
  have here := isWellFormed_of_get wellFormed isDirectory
  rcases get_relisted relisted wellFormed path with
    ⟨fault, failed, -⟩ | ⟨tree, copy, found, there, related⟩
  · rw [isDirectory] at failed
    cases failed
  · cases isDirectory.symm.trans found
    rcases related.same_kind with ⟨_, impossible, -⟩ | ⟨_, others, -, rfl⟩
    · cases impossible
    · refine ⟨others, there, ?_⟩
      have distinct := (Tree.isWellFormed_directory_iff.mp here).1
      have inner : (Tree.directory entries).get? [entry.1] = some entry.2 := by
        rw [← List.nil_append [entry.1], Tree.get?_append_name rfl,
          Tree.find?_of_mem distinct listed]
      rcases related.get?_cases here [entry.1] with ⟨absent, -⟩ | ⟨_, copy, -, inOther, -⟩
      · rw [inner] at absent
        cases absent
      · rw [← List.nil_append [entry.1], Tree.get?_append_name rfl] at inOther
        exact ⟨_, Tree.mem_of_find? inOther, rfl⟩

theorem Below.relisted (relisted : disk.Relisted other)
    (wellFormed : disk.root.isWellFormed = true) (stands : disk.Below path below) :
    other.Below path below := by
  induction stands with
  | entry isDirectory listed =>
      rcases exists_listed_relisted relisted wellFormed isDirectory listed with
        ⟨others, there, copy, inOther, same⟩
      exact same ▸ .entry there inOther
  | deeper isDirectory listed _ induction =>
      rcases exists_listed_relisted relisted wellFormed isDirectory listed with
        ⟨others, there, copy, inOther, same⟩
      exact .deeper there inOther (same ▸ induction)

theorem exists?_relisted (relisted : disk.Relisted other)
    (wellFormed : disk.root.isWellFormed = true) (path : Text) :
    other.exists? path = disk.exists? path := by
  rw [Disk.exists?, Disk.exists?]
  rcases Disk.get_relisted relisted wellFormed path with
    ⟨_, failed, alsoFailed⟩ | ⟨_, _, found, there, -⟩
  · rw [failed, alsoFailed]
  · rw [found, there]

end Disk

/-! ## Gathering files -/

namespace Tree

/-- What holds of files, and of a directory if it holds of its entries, holds of every tree. -/
@[induction_eliminator]
theorem induction {motive : Tree → Prop} (file : ∀ bytes, motive (.file bytes))
    (directory : ∀ entries, (∀ entry ∈ entries, motive entry.2) → motive (.directory entries)) :
    ∀ tree, motive tree
  | .file bytes => file bytes
  | .directory entries =>
    directory entries fun entry listed =>
      have smaller : sizeOf entry.2 < sizeOf (Tree.directory entries) := by
        have whole := List.sizeOf_lt_of_mem listed
        cases entry
        simp only [Tree.directory.sizeOf_spec, Prod.mk.sizeOf_spec] at whole ⊢
        omega
      induction file directory entry.2
termination_by tree => sizeOf tree
decreasing_by exact smaller

theorem entryPaths_eq_flatMap (path : Text) (entries : List (Text × Tree)) :
    entryPaths path entries =
      entries.flatMap fun entry => filePaths (Path.join path entry.1) entry.2 := by
  induction entries with
  | nil => rfl
  | cons entry rest induction =>
      rw [entryPaths, List.flatMap_cons, induction]

variable {disk : Disk} {tree : Tree} {path found : Text} {entries : List (Text × Tree)}

/-- What the entries of a directory hold is put together from what each of them holds. -/
theorem mem_entryPaths_of_entries (isDirectory : disk.get path = .ok (.directory entries))
    (each : ∀ entry ∈ entries, found ∈ entry.2.filePaths (Path.join path entry.1) ↔
      (found = Path.join path entry.1 ∨ disk.Below (Path.join path entry.1) found) ∧
        disk.isDirectory found = false) :
    found ∈ entryPaths path entries ↔ disk.Below path found ∧ disk.isDirectory found = false := by
  rw [entryPaths_eq_flatMap, List.mem_flatMap, Disk.below_iff isDirectory]
  constructor
  · rintro ⟨entry, listed, inside⟩
    rcases (each entry listed).mp inside with ⟨place, noDirectory⟩
    exact ⟨⟨entry, listed, place⟩, noDirectory⟩
  · rintro ⟨⟨entry, listed, place⟩, noDirectory⟩
    exact ⟨entry, listed, (each entry listed).mpr ⟨place, noDirectory⟩⟩

theorem mem_filePaths_iff (wellFormed : tree.isWellFormed = true)
    (stands : disk.StandsAt tree path) :
    found ∈ tree.filePaths path ↔
      (found = path ∨ disk.Below path found) ∧ disk.isDirectory found = false := by
  have alone {path : Text} (noDirectory : disk.isDirectory path = false) :
      found ∈ [path] ↔ (found = path ∨ disk.Below path found) ∧ disk.isDirectory found = false := by
    simp only [List.mem_singleton, Disk.not_below noDirectory, or_false]
    exact ⟨fun same => ⟨same, same ▸ noDirectory⟩, And.left⟩
  induction tree generalizing path with
  | file bytes =>
      apply alone
      rw [Disk.isDirectory, stands]
      by_cases long : Disk.pathLimit < Text.byteLength path
      · rw [if_pos long]
      · rw [if_neg long]
  | directory entries induction =>
      rw [Disk.StandsAt] at stands
      rw [filePaths]
      by_cases long : Disk.pathLimit < Text.byteLength path
      · rw [if_pos long] at stands ⊢
        apply alone
        rw [Disk.isDirectory, stands]
      · rw [if_neg long] at stands ⊢
        rw [mem_entryPaths_of_entries stands]
        · have isDirectory : disk.isDirectory path = true := by rw [Disk.isDirectory, stands]
          refine and_congr_left fun noDirectory => ⟨.inr, fun place => ?_⟩
          refine place.resolve_left fun same => ?_
          rw [same, isDirectory] at noDirectory
          cases noDirectory
        · intro entry listed
          have inner := ((isWellFormed_directory_iff.mp wellFormed).2 entry listed).inner
          exact induction entry listed inner (Disk.standsAt_join stands wellFormed listed)

theorem mem_entryPaths_iff (wellFormed : disk.root.isWellFormed = true)
    (isDirectory : disk.get path = .ok (.directory entries)) :
    found ∈ entryPaths path entries ↔ disk.Below path found ∧ disk.isDirectory found = false := by
  have here := Disk.isWellFormed_of_get wellFormed isDirectory
  refine mem_entryPaths_of_entries isDirectory fun entry listed => ?_
  exact mem_filePaths_iff ((isWellFormed_directory_iff.mp here).2 entry listed).inner
    (Disk.standsAt_join isDirectory here listed)

/-! ### Distinct paths -/

/-- A file's path goes on from the path of the tree that it was found in. -/
theorem components_prefix_of_mem (wellFormed : tree.isWellFormed = true) (some : path ≠ [])
    (member : found ∈ tree.filePaths path) :
    Path.components path <+: Path.components found := by
  induction tree generalizing path with
  | file bytes =>
      rw [filePaths, List.mem_singleton] at member
      exact member ▸ List.prefix_rfl
  | directory entries induction =>
      rw [filePaths] at member
      by_cases long : Disk.pathLimit < Text.byteLength path
      · rw [if_pos long, List.mem_singleton] at member
        exact member ▸ List.prefix_rfl
      · rw [if_neg long, entryPaths_eq_flatMap, List.mem_flatMap] at member
        rcases member with ⟨entry, listed, inside⟩
        have proper := (isWellFormed_directory_iff.mp wellFormed).2 entry listed
        have longer := induction entry listed proper.inner (Path.join_ne_nil some _) inside
        rw [Path.components_join some proper.named] at longer
        exact (List.prefix_append _ _).trans longer

/-- Files found under two entries have distinct components, for those of the entries' paths differ
at the names. -/
theorem components_ne_of_entries {first second : Text × Tree} {other : Text} (some : path ≠ [])
    (inFirst : EntryWellFormed first) (inSecond : EntryWellFormed second)
    (different : first.1 ≠ second.1) (member : found ∈ first.2.filePaths (Path.join path first.1))
    (alsoMember : other ∈ second.2.filePaths (Path.join path second.1)) :
    Path.components found ≠ Path.components other := by
  intro same
  have left := components_prefix_of_mem inFirst.inner (Path.join_ne_nil some _) member
  have right := components_prefix_of_mem inSecond.inner (Path.join_ne_nil some _) alsoMember
  rw [Path.components_join some inFirst.named, same] at left
  rw [Path.components_join some inSecond.named] at right
  have equal := (List.prefix_of_prefix_length_le left right (by simp)).eq_of_length (by simp)
  have names := List.append_cancel_left equal
  simp only [List.cons.injEq, Path.Component.name.injEq, and_true] at names
  exact different names

theorem pairwise_entryPaths (some : path ≠ [])
    (wellFormed : (directory entries).isWellFormed = true)
    (each : ∀ entry ∈ entries, (entry.2.filePaths (Path.join path entry.1)).Pairwise
      fun a b => Path.components a ≠ Path.components b) :
    (entryPaths path entries).Pairwise fun a b => Path.components a ≠ Path.components b := by
  rcases isWellFormed_directory_iff.mp wellFormed with ⟨distinct, inside⟩
  rw [entryPaths_eq_flatMap, List.pairwise_flatMap]
  refine ⟨each, ?_⟩
  refine (List.pairwise_map.mp distinct).imp_of_mem fun listed alsoListed different => ?_
  intro found member other alsoMember
  exact components_ne_of_entries some (inside _ listed) (inside _ alsoListed) different member
    alsoMember

theorem pairwise_filePaths (some : path ≠ []) (wellFormed : tree.isWellFormed = true) :
    (tree.filePaths path).Pairwise fun a b => Path.components a ≠ Path.components b := by
  induction tree generalizing path with
  | file bytes => exact List.pairwise_singleton _ _
  | directory entries induction =>
      rw [filePaths]
      by_cases long : Disk.pathLimit < Text.byteLength path
      · rw [if_pos long]
        exact List.pairwise_singleton _ _
      · rw [if_neg long]
        refine pairwise_entryPaths some wellFormed fun entry listed => ?_
        have inner := ((isWellFormed_directory_iff.mp wellFormed).2 entry listed).inner
        exact induction entry listed (Path.join_ne_nil some _) inner

end Tree

/-! ## Scanning -/

namespace Settings

/-- What a path is to name: a file itself, and a directory the accepted files below it, in strictly
ascending order. -/
inductive Finds (settings : Settings) (disk : Disk) (path : Text) : List Text → Prop
  | file {bytes : List UInt8} (isFile : disk.get path = .ok (.file bytes)) :
      Finds settings disk path [path]
  | directory {found : List Text} (isDirectory : disk.isDirectory path = true)
      (ascending : found.Pairwise Path.Before)
      (exact : ∀ file, file ∈ found ↔ disk.Below path file ∧ disk.isDirectory file = false ∧
        settings.acceptsFile file = true) :
      Finds settings disk path found

variable {settings : Settings} {disk other : Disk} {path : Text}

theorem finds_stylesheetsAt (settings : Settings) (wellFormed : disk.root.isWellFormed = true)
    (leads : disk.exists? path = true) :
    ∃ found, settings.stylesheetsAt disk path = .ok found ∧ settings.Finds disk path found := by
  rw [Disk.exists?] at leads
  rw [stylesheetsAt]
  cases here : disk.get path with
  | error fault =>
      rw [here] at leads
      cases leads
  | ok tree =>
      cases tree with
      | file bytes => exact ⟨_, rfl, .file here⟩
      | directory entries =>
          have some : path ≠ [] := by
            rcases Disk.get_eq_ok_iff.mp here with ⟨place, located, -⟩
            exact (Disk.locate_eq_ok_iff.mp located).1
          have inside := Disk.isWellFormed_of_get wellFormed here
          refine ⟨_, rfl, .directory (by rw [Disk.isDirectory, here]) ?_ fun file => ?_⟩
          · refine Path.sort_ascending (List.Pairwise.filter _ ?_)
            refine Tree.pairwise_entryPaths some inside fun entry listed => ?_
            have inner := ((Tree.isWellFormed_directory_iff.mp inside).2 entry listed).inner
            exact Tree.pairwise_filePaths (Path.join_ne_nil some _) inner
          · rw [(Path.sort_perm _).mem_iff, List.mem_filter,
              Tree.mem_entryPaths_iff wellFormed here, and_assoc]

theorem stylesheetsAt_of_not_exists (missing : disk.exists? path = false) :
    settings.stylesheetsAt disk path = .error (.notFound path) := by
  rw [Disk.exists?] at missing
  rw [stylesheetsAt]
  cases here : disk.get path with
  | error fault => rfl
  | ok tree =>
      rw [here] at missing
      cases missing

theorem Finds.unique {found also : List Text} (first : settings.Finds disk path found)
    (second : settings.Finds disk path also) : found = also := by
  cases first with
  | file isFile =>
      cases second with
      | file => rfl
      | directory isDirectory =>
          rw [Disk.isDirectory, isFile] at isDirectory
          cases isDirectory
  | directory isDirectory ascending exact =>
      cases second with
      | file isFile =>
          rw [Disk.isDirectory, isFile] at isDirectory
          cases isDirectory
      | directory _ alsoAscending alsoExact =>
          exact ascending.eq_of_mem_iff alsoAscending fun file =>
            (exact file).trans (alsoExact file).symm

theorem Finds.relisted {found : List Text} (relisted : disk.Relisted other)
    (wellFormed : disk.root.isWellFormed = true) (finds : settings.Finds disk path found) :
    settings.Finds other path found := by
  cases finds with
  | @file bytes isFile =>
      rcases Disk.get_relisted relisted wellFormed path with
        ⟨_, failed, -⟩ | ⟨tree, listed, found, there, related⟩
      · rw [isFile] at failed
        cases failed
      · cases isFile.symm.trans found
        rcases related.same_kind with ⟨_, -, rfl⟩ | ⟨_, _, impossible, -⟩
        · exact .file there
        · cases impossible
  | directory isDirectory ascending exact =>
      have alsoWellFormed := relisted.root.isWellFormed wellFormed
      refine .directory ?_ ascending fun file => ?_
      · rw [Disk.isDirectory_relisted relisted wellFormed, isDirectory]
      · rw [exact file, Disk.isDirectory_relisted relisted wellFormed]
        exact and_congr_left fun _ =>
          ⟨.relisted relisted wellFormed, .relisted relisted.symm alsoWellFormed⟩

theorem exists_parts (settings : Settings) (wellFormed : disk.root.isWellFormed = true)
    {paths : List Text} (existing : ∀ path ∈ paths, disk.exists? path = true) :
    ∃ parts, settings.stylesheets disk paths = .ok parts.flatten ∧
      List.Forall₂ (settings.Finds disk) paths parts := by
  induction paths with
  | nil => exact ⟨[], rfl, .nil⟩
  | cons path rest induction =>
      rcases List.forall_mem_cons.mp existing with ⟨here, others⟩
      rcases finds_stylesheetsAt settings wellFormed here with ⟨found, atPath, finds⟩
      rcases induction others with ⟨parts, atRest, partsFound⟩
      refine ⟨found :: parts, ?_, .cons finds partsFound⟩
      rw [stylesheets, atPath, atRest]
      rfl

theorem stylesheetsAt_relisted (settings : Settings) (relisted : disk.Relisted other)
    (wellFormed : disk.root.isWellFormed = true) (path : Text) :
    settings.stylesheetsAt other path = settings.stylesheetsAt disk path := by
  have alsoWellFormed := relisted.root.isWellFormed wellFormed
  have leads := Disk.exists?_relisted relisted wellFormed path
  cases here : disk.exists? path with
  | false =>
      rw [here] at leads
      rw [stylesheetsAt_of_not_exists here, stylesheetsAt_of_not_exists leads]
  | true =>
      rw [here] at leads
      rcases finds_stylesheetsAt settings wellFormed here with ⟨found, scanned, finds⟩
      rcases finds_stylesheetsAt settings alsoWellFormed leads with ⟨also, alsoScanned, alsoFinds⟩
      rw [scanned, alsoScanned, (finds.relisted relisted wellFormed).unique alsoFinds]

/-- A scan of paths that exist gives the stylesheets that each of them names, in the order of the
paths: a file itself, and for a directory the files below it, at any depth, that have an accepted
extension, each once and in strictly ascending order. Hence the order in which directories list
their entries does not show. What stands at a path that is too long to be followed is no
directory to a scan. -/
theorem stylesheets_exact (settings : Settings) {disk : Disk}
    (wellFormed : disk.root.isWellFormed = true) :
    (∀ paths, (∀ path ∈ paths, disk.exists? path = true) →
        ∃ parts, settings.stylesheets disk paths = .ok parts.flatten ∧
          List.Forall₂ (settings.Finds disk) paths parts) ∧
      ∀ other, disk.Relisted other → ∀ paths,
        settings.stylesheets other paths = settings.stylesheets disk paths := by
  refine ⟨fun paths existing => exists_parts settings wellFormed existing, ?_⟩
  intro other relisted paths
  induction paths with
  | nil => rfl
  | cons path rest induction =>
      rw [stylesheets, stylesheets, stylesheetsAt_relisted settings relisted wellFormed, induction]

end Settings

/-- A directory with a nested one, beside a stylesheet. -/
def siteDisk : Disk where
  root := .directory [
    ("site".toList, .directory [
      ("b.css".toList, .file []),
      ("a".toList, .directory [("z.scss".toList, .file []), ("note.txt".toList, .file [])])]),
    ("main.css".toList, .file [])]

/-- The same files, listed in other orders at all levels. -/
def shuffledDisk : Disk where
  root := .directory [
    ("main.css".toList, .file []),
    ("site".toList, .directory [
      ("a".toList, .directory [("note.txt".toList, .file []), ("z.scss".toList, .file [])]),
      ("b.css".toList, .file [])])]

theorem siteDisk_relisted : siteDisk.Relisted shuffledDisk := by
  refine ⟨?_, rfl⟩
  refine .trans (.permuted (List.Perm.swap _ _ _)) (.inside ?_ [_] _ [])
  refine .trans (.permuted (List.Perm.swap _ _ _)) (.inside ?_ [] _ [_])
  exact .permuted (List.Perm.swap _ _ _)

theorem siteDisk_stylesheets :
    (∃ parts, ({} : Settings).stylesheets siteDisk ["main.css".toList, "site".toList] =
        .ok parts.flatten ∧
      List.Forall₂ (({} : Settings).Finds siteDisk) ["main.css".toList, "site".toList] parts) ∧
    ({} : Settings).stylesheets shuffledDisk ["main.css".toList, "site".toList] =
      ({} : Settings).stylesheets siteDisk ["main.css".toList, "site".toList] := by
  have wellFormed : siteDisk.root.isWellFormed = true := by rfl
  rcases ({} : Settings).stylesheets_exact wellFormed with ⟨exact, same⟩
  exact ⟨exact _ (by decide), same shuffledDisk siteDisk_relisted _⟩

end StyleCatalog
