import Mathlib.Data.List.Sort
import StyleCatalog.Files.Path
import StyleCatalog.Proofs.Reference.ChunkOrder
import StyleCatalog.Proofs.Text.Replacing

/-! # Joined paths and their order

The path of an entry has the components of the directory's path and, after them, the entry's name.
Paths are ordered by their components alone, and only paths with the same components tie.
-/

namespace StyleCatalog.Path

open Std

/-! ## The order of components -/

/-- The name of a component that is one. -/
def Component.text : Component → Text
  | .name t => t
  | _ => []

theorem Component.compare_eq_compareLex :
    Component.compare =
      compareLex (compareOn Component.rank) fun a b => Text.compare a.text b.text := by
  funext a b
  cases a <;> cases b <;> rfl

instance : TransCmp fun a b : Component => Text.compare a.text b.text where
  eq_swap := OrientedCmp.eq_swap
  isLE_trans := TransCmp.isLE_trans

instance : TransCmp Component.compare := by
  rw [Component.compare_eq_compareLex]
  infer_instance

instance : LawfulEqCmp Component.compare where
  compare_self := ReflCmp.compare_self
  eq_of_compare {a b} tie := by
    cases a <;> cases b <;> simp_all [Component.compare, Component.rank]

/-! ## The order of paths -/

theorem compareComponents_eq_compareLex :
    compareComponents = List.compareLex Component.compare := by
  funext as bs
  induction as generalizing bs with
  | nil => cases bs <;> rfl
  | cons a as induction =>
      cases bs with
      | nil => rfl
      | cons b bs =>
          rw [compareComponents, induction, List.compareLex_cons_cons]

instance : TransCmp compareComponents := by
  rw [compareComponents_eq_compareLex]
  infer_instance

instance : LawfulEqCmp compareComponents := by
  rw [compareComponents_eq_compareLex]
  infer_instance

instance : TransCmp compare where
  eq_swap {a b} := by
    change compareComponents _ _ = (compareComponents _ _).swap
    exact OrientedCmp.eq_swap
  isLE_trans {a b c} first second := by
    change (compareComponents _ _).isLE = true at first second ⊢
    exact TransCmp.isLE_trans first second

theorem compare_eq_eq_iff {a b : Text} : compare a b = .eq ↔ components a = components b := by
  rw [compare]
  exact LawfulEqCmp.compare_eq_iff_eq

theorem compare_total (a b : Text) : ((compare a b).isLE || (compare b a).isLE) = true := by
  rw [Bool.or_eq_true]
  cases order : compare a b
  · exact .inl rfl
  · exact .inl rfl
  · exact .inr (by rw [OrientedCmp.lt_of_gt order]; rfl)

/-- A path is strictly less than another one. -/
def Before (a b : Text) : Prop := compare a b = .lt

instance : Std.Irrefl Before where
  irrefl a before := by
    have tie : compare a a = .eq := ReflCmp.compare_self
    rw [Before, tie] at before
    cases before

instance : Std.Antisymm Before where
  antisymm _ _ before after := absurd after (OrientedCmp.not_lt_of_lt before)

theorem sort_perm (paths : List Text) : (sort paths).Perm paths := List.mergeSort_perm _ _

/-- Sorting puts paths with distinct components in strictly ascending order. -/
theorem sort_ascending {paths : List Text}
    (distinct : paths.Pairwise fun a b => components a ≠ components b) :
    (sort paths).Pairwise Before := by
  have sorted : (sort paths).Pairwise fun a b => (compare a b).isLE = true :=
    List.pairwise_mergeSort (fun _ _ _ => TransCmp.isLE_trans) compare_total paths
  have stillDistinct : (sort paths).Pairwise fun a b => components a ≠ components b :=
    (sort_perm paths).symm.pairwise distinct Ne.symm
  refine sorted.imp₂ (fun a b ordered different => ?_) stillDistinct
  exact (Ordering.isLE_iff_eq_lt_or_eq_eq.mp ordered).resolve_right
    fun tie => different (compare_eq_eq_iff.mp tie)

/-! ## Joining -/

/-- A name that an entry of a directory can have. -/
def isFileName (name : Text) : Bool :=
  !name.isEmpty && name ≠ ['.'] && name ≠ ['.', '.'] && !name.contains '/'

theorem componentOf?_of_isFileName {name : Text} (named : isFileName name = true) :
    componentOf? name = some (.name name) := by
  simp only [isFileName, Bool.and_eq_true, Bool.not_eq_true', decide_eq_true_eq] at named
  simp [componentOf?, named]

theorem splitAtChar_of_isFileName {name : Text} (named : isFileName name = true) :
    name.splitAtChar '/' = [name] := by
  simp only [isFileName, Bool.and_eq_true, Bool.not_eq_true', List.contains_eq_mem,
    decide_eq_false_iff_not] at named
  exact Text.splitAtChar_of_not_mem named.2

/-- A joined path puts a slash and the name behind the directory's path, whose own slash at its end
goes. -/
theorem exists_join {directory : Text} (some : directory ≠ []) (name : Text) :
    ∃ body, join directory name = body ++ '/' :: name ∧
      (directory = body ∨ directory = body ++ ['/']) := by
  by_cases slash : directory.getLast? = Option.some '/'
  · rcases List.getLast?_eq_some_iff.mp slash with ⟨body, rfl⟩
    refine ⟨body, ?_, .inr rfl⟩
    rw [join, if_pos (by simp), List.append_assoc]
    rfl
  · refine ⟨directory, ?_, .inl rfl⟩
    rw [join, if_neg (by simp [some, slash])]

theorem join_ne_nil {directory : Text} (some : directory ≠ []) (name : Text) :
    join directory name ≠ [] := by
  rcases exists_join some name with ⟨body, joined, -⟩
  rw [joined]
  exact List.append_ne_nil_of_right_ne_nil body (List.cons_ne_nil _ _)

theorem head?_join {directory : Text} (some : directory ≠ []) (name : Text) :
    (join directory name).head? = directory.head? := by
  rcases exists_join some name with ⟨body, joined, rfl | rfl⟩
  · rw [joined, List.head?_append_of_ne_nil _ some]
  · rw [joined, List.head?_append, List.head?_append]
    rfl

/-- The name is the last piece of a joined path, in place of an empty last piece of the
directory's. -/
theorem exists_pieces_join {directory name : Text} (some : directory ≠ [])
    (named : isFileName name = true) :
    ∃ pieces, pieces ≠ [] ∧ (join directory name).splitAtChar '/' = pieces ++ [name] ∧
      (directory.splitAtChar '/' = pieces ∨ directory.splitAtChar '/' = pieces ++ [[]]) := by
  rcases exists_join some name with ⟨body, joined, shape⟩
  refine ⟨body.splitAtChar '/', Text.splitAtChar_ne_nil _ _, ?_, ?_⟩
  · rw [joined, Text.splitAtChar_append_cons, splitAtChar_of_isFileName named]
  · rcases shape with rfl | rfl
    · exact .inl rfl
    · exact .inr (Text.splitAtChar_append_cons _ _ _)

/-- The components are those that the pieces stand for, behind the one that the path starts
with. -/
theorem components_eq (path : Text) :
    components path =
      (if path.head? = some '/' then [.root]
        else if (path.splitAtChar '/').head? = some ['.'] then [.current] else []) ++
        (path.splitAtChar '/').filterMap componentOf? := by
  cases path with
  | nil => rfl
  | cons c rest =>
      by_cases slash : c = '/'
      · rw [slash, List.head?_cons, if_pos rfl]
        rfl
      · have relative : (c :: rest).head? ≠ some '/' := by simpa using slash
        rw [if_neg relative, components]
        · split <;> rfl
        · intro _ absolute
          exact slash (List.cons.inj absolute).1

theorem components_join {directory name : Text} (some : directory ≠ [])
    (named : isFileName name = true) :
    components (join directory name) = components directory ++ [.name name] := by
  rcases exists_pieces_join some named with ⟨pieces, nonempty, joined, shape⟩
  have same : (directory.splitAtChar '/').head? = pieces.head? ∧
      (directory.splitAtChar '/').filterMap componentOf? = pieces.filterMap componentOf? := by
    rcases shape with shape | shape
    · exact shape ▸ ⟨rfl, rfl⟩
    · rw [shape, List.filterMap_append]
      exact ⟨List.head?_append_of_ne_nil _ nonempty, List.append_nil _⟩
  rw [components_eq, components_eq, head?_join some, joined, same.1, same.2,
    List.filterMap_append, List.head?_append_of_ne_nil _ nonempty, List.append_assoc]
  simp [componentOf?_of_isFileName named]

end StyleCatalog.Path
