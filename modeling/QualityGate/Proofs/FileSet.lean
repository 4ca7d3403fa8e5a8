import QualityGate.FileSet
import QualityGate.Proofs.Location.Spelling
import Mathlib.Data.List.Perm.Basic

/-!
# Sets of files

A set is strictly increasing in the order of components, and it has a path for each given one.  With
one spelling for each place it has exactly the given paths, whatever their order and number.
-/

namespace QualityGate

/-! ## The order of paths -/

namespace Component

/-- The text that decides between names. -/
def nameText (component : Component) : String :=
  component.name?.getD ""

/-- Components are compared by their kinds and then by their names. -/
theorem compare_eq_compareLex :
    Component.compare = compareLex (compareOn rank) (compareOn nameText) := by
  funext first second
  cases first <;> cases second <;> rfl

instance : Std.TransCmp Component.compare := by
  rw [compare_eq_compareLex]
  infer_instance

instance : Std.LawfulEqCmp Component.compare where
  eq_of_compare {first second} same := by
    cases first with
    | name text =>
      cases second with
      | name other =>
        have equal : Ord.compare text other = .eq := same
        rw [Std.LawfulEqOrd.eq_of_compare equal]
      | _ => cases same
    | _ => cases second <;> first | rfl | cases same

end Component

namespace Location

/-- Lists of components are compared lexicographically. -/
theorem compareComponents_eq_compareLex :
    compareComponents = List.compareLex Component.compare := by
  funext first second
  induction first generalizing second with
  | nil => cases second <;> rfl
  | cons component rest inductionHypothesis =>
    cases second with
    | nil => rfl
    | cons other others =>
      rw [compareComponents, inductionHypothesis, List.compareLex_cons_cons]

instance : Std.TransCmp compareComponents := by
  rw [compareComponents_eq_compareLex]
  infer_instance

instance : Std.LawfulEqCmp compareComponents := by
  rw [compareComponents_eq_compareLex]
  infer_instance

end Location

namespace FileSet

open Location Std

instance : TransCmp comparePaths where
  eq_swap := (inferInstance : TransCmp compareComponents).eq_swap
  isLE_trans := (inferInstance : TransCmp compareComponents).isLE_trans

theorem comparePaths_eq_iff {first second : String} :
    comparePaths first second = .eq ↔ components first = components second := by
  rw [comparePaths]
  exact LawfulEqCmp.compare_eq_iff_eq

/-! ## Sets -/

/-- The first path stands before the second one. -/
def Before (first second : String) : Prop :=
  comparePaths first second = .lt

theorem asymm_before {first second : String} (before : Before first second) :
    ¬ Before second first := by
  have swapped : comparePaths second first = (comparePaths first second).swap :=
    OrientedCmp.eq_swap
  rw [Before, swapped, before]
  nofun

theorem isLE_total (first second : String) :
    ((comparePaths first second).isLE || (comparePaths second first).isLE) = true := by
  have swapped : comparePaths second first = (comparePaths first second).swap :=
    OrientedCmp.eq_swap
  rw [swapped]
  cases comparePaths first second <;> rfl

/-- Of a list in order, keeping the last of equal paths leaves no two of them. -/
theorem pairwise_keepLast {paths : List String}
    (inOrder : paths.Pairwise fun first second => (comparePaths first second).isLE) :
    (keepLast paths).Pairwise Before := by
  fun_induction keepLast paths with
  | case1 => exact .nil
  | case2 path => exact List.pairwise_singleton ..
  | case3 first second rest equal inductionHypothesis =>
    exact inductionHypothesis (List.pairwise_cons.mp inOrder).2
  | case4 first second rest differ inductionHypothesis =>
    obtain ⟨front, following⟩ := List.pairwise_cons.mp inOrder
    refine List.pairwise_cons.mpr ⟨fun path kept => ?_, inductionHypothesis following⟩
    have before : comparePaths first second = .lt := by
      have atMost := front second List.mem_cons_self
      rw [Ordering.isLE_iff_eq_lt_or_eq_eq] at atMost
      exact atMost.resolve_right (by simpa using differ)
    -- what is kept behind the first path is the second one or does not stand before it
    rcases List.mem_cons.mp ((keepLast_sublist _).subset kept) with rfl | later
    · exact before
    · exact TransCmp.lt_of_lt_of_isLE before ((List.pairwise_cons.mp following).1 path later)

/-- A set is strictly increasing. -/
theorem pairwise_ofList (paths : List String) : (ofList paths).paths.Pairwise Before :=
  pairwise_keepLast (List.pairwise_mergeSort (fun _ _ _ => TransCmp.isLE_trans)
    (fun _ _ => isLE_total _ _) paths)

example : Before "a/x" "a-b/x" := by
  unfold Before
  decide +kernel

/-- Strictly increasing lists with the same paths are the same. -/
theorem eq_of_pairwise_before {paths others : List String} (increasing : paths.Pairwise Before)
    (otherIncreasing : others.Pairwise Before) (same : ∀ path, path ∈ paths ↔ path ∈ others) :
    paths = others := by
  have nodup {paths : List String} (increasing : paths.Pairwise Before) : paths.Nodup :=
    increasing.imp fun before => by
      rintro rfl
      exact asymm_before before before
  have perm : paths.Perm others := by
    rw [List.perm_ext_iff_of_nodup (nodup increasing) (nodup otherIncreasing)]
    exact same
  apply perm.eq_of_pairwise _ increasing otherIncreasing
  intro first second _ _ before after
  exact absurd after (asymm_before before)

/-- A part of a set has its paths in the order of the set. -/
theorem paths_eq_filter_of_subset {given chosen : List String}
    (subset : (ofList chosen).paths ⊆ (ofList given).paths) :
    (ofList chosen).paths =
      (ofList given).paths.filter fun path => (ofList chosen).paths.contains path := by
  apply eq_of_pairwise_before (pairwise_ofList chosen) ((pairwise_ofList given).filter _)
  intro path
  simp only [List.mem_filter, List.contains_iff_mem]
  exact ⟨fun member => ⟨subset member, member⟩, And.right⟩

/-- A spelling of every path is kept. -/
theorem exists_mem_keepLast {paths : List String} {path : String} (member : path ∈ paths) :
    ∃ kept ∈ keepLast paths, components kept = components path := by
  fun_induction keepLast paths generalizing path with
  | case1 => cases member
  | case2 only => exact ⟨path, member, rfl⟩
  | case3 first second rest equal inductionHypothesis =>
    rcases List.mem_cons.mp member with rfl | later
    · obtain ⟨kept, isKept, same⟩ := inductionHypothesis List.mem_cons_self
      exact ⟨kept, isKept, same.trans (comparePaths_eq_iff.mp (beq_iff_eq.mp equal)).symm⟩
    · exact inductionHypothesis later
  | case4 first second rest differ inductionHypothesis =>
    rcases List.mem_cons.mp member with rfl | later
    · exact ⟨_, List.mem_cons_self, rfl⟩
    · obtain ⟨kept, isKept, same⟩ := inductionHypothesis later
      exact ⟨kept, List.mem_cons_of_mem _ isKept, same⟩

section Normal

variable {paths : List String} (normal : ∀ path ∈ paths, IsNormal path)
include normal

/-- With one spelling for each place, a set has exactly the given paths. -/
theorem mem_ofList_iff {path : String} : path ∈ (ofList paths).paths ↔ path ∈ paths := by
  refine ⟨mem_of_mem_ofList, fun member => ?_⟩
  obtain ⟨kept, isKept, same⟩ := exists_mem_keepLast (List.mem_mergeSort.mpr member)
  have given : kept ∈ paths := mem_of_mem_ofList isKept
  rwa [← (normal kept given).eq_of_components_eq (normal path member) same]

/-- The order and the number of the given paths do not matter. -/
theorem ofList_eq_of_mem_iff {others : List String}
    (same : ∀ path, path ∈ others ↔ path ∈ paths) : ofList others = ofList paths := by
  have othersNormal : ∀ path ∈ others, IsNormal path := fun path member =>
    normal path ((same path).mp member)
  have paths_eq : (ofList others).paths = (ofList paths).paths := by
    apply eq_of_pairwise_before (pairwise_ofList others) (pairwise_ofList paths)
    intro path
    rw [mem_ofList_iff othersNormal, mem_ofList_iff normal, same]
  exact congrArg FileSet.mk paths_eq

end Normal
end FileSet
end QualityGate
