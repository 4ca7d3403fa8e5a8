import QualityGate.Proofs.Scope.Exclusion
import QualityGate.Proofs.StateDirectory
import Mathlib.Data.List.Basic

/-!
# Walks

A walk finds what is below the folders it enters, and it is deep enough for every file.  What it
finds in the state directory is not kept, so two walks keep the same files, in the same order, if the
entries outside the state directory and the lists of ignored files are the same.
-/

namespace QualityGate
namespace Scope

variable {tree other : Tree}

/-! ## One folder -/

/-- What a walk finds under an entry of a folder, given the lists that count in the folder. -/
def visit
    (tree : Tree)
    (fuel : Nat)
    (listing : Listing)
    (entry : List String × Node) : List (List String) :=
  if entry.1.getLast? == some ".git" ||
      listing.verdict? entry.1 (entry.2 == .folder) == some .ignored then []
  else if entry.2 == .folder then filesBelow tree fuel listing entry.1
  else [entry.1]

theorem filesBelow_succ
    (tree : Tree)
    (fuel : Nat)
    (outer : Listing)
    (folder : List String) :
    filesBelow tree (fuel + 1) outer folder =
      (entriesOf tree folder).flatMap (visit tree fuel (outer.enter tree folder)) := rfl

theorem mem_entriesOf_iff
    {folder : List String}
    {entry : List String × Node} :
    entry ∈ entriesOf tree folder ↔
      entry ∈ tree.entries ∧ entry.1.length = folder.length + 1 ∧ folder <+: entry.1 := by
  simp [entriesOf]

/-- Files are found below the folder that is walked. -/
theorem prefix_of_mem_filesBelow
    {fuel : Nat}
    {outer : Listing}
    {folder names : List String}
    (member : names ∈ filesBelow tree fuel outer folder) :
    folder <+: names := by
  induction fuel generalizing outer folder with
  | zero => cases member
  | succ fuel inductionHypothesis =>
    rw [filesBelow_succ] at member
    obtain ⟨entry, isEntry, found⟩ := List.mem_flatMap.mp member
    have below := (mem_entriesOf_iff.mp isEntry).2.2
    unfold visit at found
    split at found
    · cases found
    · split at found
      · exact below.trans (inductionHypothesis found)
      · rw [List.mem_singleton.mp found]
        exact below

/-- What is found under an entry is below that entry. -/
theorem prefix_of_mem_visit
    {fuel : Nat}
    {listing : Listing}
    {entry : List String × Node}
    {names : List String}
    (member : names ∈ visit tree fuel listing entry) :
    entry.1 <+: names := by
  unfold visit at member
  split at member
  · cases member
  · split at member
    · exact prefix_of_mem_filesBelow member
    · rw [List.mem_singleton.mp member]

/-! ## Depth -/

/-- A walk that is deep enough finds nothing more when it goes deeper. -/
theorem filesBelow_deeper
    {fuel : Nat}
    {outer : Listing}
    {folder : List String}
    (deep : ∀ entry ∈ tree.entries, entry.1.length ≤ folder.length + fuel) :
    filesBelow tree (fuel + 1) outer folder = filesBelow tree fuel outer folder := by
  induction fuel generalizing outer folder with
  | zero =>
    rw [filesBelow_succ]
    refine List.flatMap_eq_nil_iff.mpr fun entry isEntry => ?_
    obtain ⟨listed, length_eq, -⟩ := mem_entriesOf_iff.mp isEntry
    have := deep entry listed
    omega
  | succ fuel inductionHypothesis =>
    rw [filesBelow_succ, filesBelow_succ]
    refine List.flatMap_congr fun entry isEntry => ?_
    obtain ⟨-, length_eq, -⟩ := mem_entriesOf_iff.mp isEntry
    have deeper : filesBelow tree (fuel + 1) (outer.enter tree folder) entry.1 =
        filesBelow tree fuel (outer.enter tree folder) entry.1 := by
      refine inductionHypothesis fun other listed => ?_
      have := deep other listed
      omega
    rw [visit, visit, deeper]

/-- No number is above the largest one. -/
theorem le_foldl_max
    (numbers : List Nat)
    (start : Nat) :
    start ≤ numbers.foldl max start ∧
      ∀ number ∈ numbers, number ≤ numbers.foldl max start := by
  induction numbers generalizing start with
  | nil => simp
  | cons first rest inductionHypothesis =>
    obtain ⟨above, members⟩ := inductionHypothesis (max start first)
    rw [List.foldl_cons]
    refine ⟨by omega, fun number member => ?_⟩
    rcases List.mem_cons.mp member with rfl | later
    · omega
    · exact members number later

/-- A walk is deep enough for every file, so it may as well go deeper. -/
theorem exists_walk_eq (tree : Tree) :
    ∃ depth, ∀ fuel ≥ depth,
      walk tree = (filesBelow tree fuel .none []).map (String.intercalate "/") := by
  let deepest := (tree.entries.map fun entry => entry.1.length).foldl max 0
  refine ⟨deepest + 1, fun fuel deep => ?_⟩
  have enough : filesBelow tree fuel .none [] = filesBelow tree (deepest + 1) .none [] := by
    induction fuel, deep using Nat.le_induction with
    | base => rfl
    | succ fuel deep inductionHypothesis =>
      rw [filesBelow_deeper fun entry listed => ?_, inductionHypothesis]
      have := (le_foldl_max (tree.entries.map fun entry => entry.1.length) 0).2 entry.1.length
        (List.mem_map_of_mem listed)
      simp only [List.length_nil]
      omega
  rw [enough]
  rfl

/-! ## Two states of a project -/

/-- Two states of a project look the same to a walk outside the state directory. -/
structure SameView (tree other : Tree) : Prop where
  outside : other.outside = tree.outside
  rulesIn : ∀ folder, ∀ list ∈ ignoreLists, rulesIn other folder list = rulesIn tree folder list

namespace SameView

variable (same : SameView tree other)
include same

theorem enter_eq
    (outer : Listing)
    (folder : List String) :
    outer.enter other folder = outer.enter tree folder := by
  unfold Listing.enter
  refine List.map_congr_left fun (list, levels) member => ?_
  dsimp only
  rw [same.rulesIn folder list (List.of_mem_zip member).1]

/-- A folder outside the state directory has the same entries. -/
theorem entriesOf_eq
    {folder : List String}
    (inside : folder ≠ [])
    (elsewhere : folder.head? ≠ some ".qgate") :
    entriesOf other folder = entriesOf tree folder := by
  have ofOutside (tree : Tree) : entriesOf tree folder = tree.outside.filter fun entry =>
      entry.1.length == folder.length + 1 && folder.isPrefixOf entry.1 := by
    rw [entriesOf, Tree.outside, List.filter_filter]
    refine List.filter_congr fun entry _ => ?_
    by_cases below : folder <+: entry.1
    · obtain ⟨rest, rest_eq⟩ := below
      have head : entry.1.head? ≠ some ".qgate" := by
        rw [← rest_eq, List.head?_append_of_ne_nil _ inside]
        exact elsewhere
      simp [head]
    · simp [below]
  rw [ofOutside, ofOutside, same.outside]

/-- The same files are found below a folder outside the state directory. -/
theorem filesBelow_eq
    {fuel : Nat}
    {outer : Listing}
    {folder : List String}
    (inside : folder ≠ [])
    (elsewhere : folder.head? ≠ some ".qgate") :
    filesBelow other fuel outer folder = filesBelow tree fuel outer folder := by
  induction fuel generalizing outer folder with
  | zero => rfl
  | succ fuel inductionHypothesis =>
    rw [filesBelow_succ, filesBelow_succ, same.entriesOf_eq inside elsewhere, same.enter_eq]
    refine List.flatMap_congr fun entry isEntry => ?_
    obtain ⟨-, length_eq, rest, rest_eq⟩ := mem_entriesOf_iff.mp isEntry
    have entryInside : entry.1 ≠ [] := by
      rw [← rest_eq]
      simp [inside]
    have entryElsewhere : entry.1.head? ≠ some ".qgate" := by
      rw [← rest_eq, List.head?_append_of_ne_nil _ inside]
      exact elsewhere
    rw [visit, visit, inductionHypothesis entryInside entryElsewhere]

end SameView

/-- Entries that contribute nothing can be left out. -/
theorem flatMap_filter_eq
    {α β : Type}
    {contribute : α → List β}
    {relevant : α → Bool}
    (entries : List α)
    (nothing : ∀ entry ∈ entries, relevant entry = false → contribute entry = []) :
    (entries.filter relevant).flatMap contribute = entries.flatMap contribute := by
  induction entries with
  | nil => rfl
  | cons entry rest inductionHypothesis =>
    obtain ⟨first, following⟩ := List.forall_mem_cons.mp nothing
    cases counts : relevant entry with
    | false =>
      rw [List.filter_cons_of_neg (by simp [counts]), List.flatMap_cons, first counts,
        List.nil_append, inductionHypothesis following]
    | true =>
      rw [List.filter_cons_of_pos counts, List.flatMap_cons, List.flatMap_cons,
        inductionHypothesis following]

/-- What a walk keeps comes from the entries outside the state directory. -/
theorem filter_filesBelow_eq
    {exclusion : Exclusion}
    (hides : exclusion.HidesState)
    (directory : tree.node? [".qgate"] = some .folder)
    (fuel : Nat) :
    ((filesBelow tree (fuel + 1) .none []).map (String.intercalate "/")).filter
        (keeps tree exclusion) =
      (tree.outside.filter fun entry => entry.1.length == 1).flatMap fun entry =>
        ((visit tree fuel (Listing.none.enter tree []) entry).map (String.intercalate "/")).filter
          (keeps tree exclusion) := by
  have outermost : (tree.outside.filter fun entry => entry.1.length == 1) =
      (entriesOf tree []).filter fun entry => entry.1.head? != some ".qgate" := by
    rw [Tree.outside, entriesOf, List.filter_filter, List.filter_filter]
    refine List.filter_congr fun entry _ => ?_
    simp [Bool.and_comm]
  rw [outermost, flatMap_filter_eq, filesBelow_succ, List.map_flatMap, List.filter_flatMap]
  intro entry _ hidden
  refine List.filter_eq_nil_iff.mpr fun path member => ?_
  obtain ⟨names, found, rfl⟩ := List.mem_map.mp member
  obtain ⟨rest, rfl⟩ := prefix_of_mem_visit found
  obtain ⟨names, entry_eq⟩ : ∃ names, entry.1 = ".qgate" :: names :=
    List.head?_eq_some_iff.mp (by simpa using hidden)
  rw [entry_eq, List.cons_append, keeps_below_stateDir hides directory]
  simp

/-- Walks of projects that look the same keep the same files. -/
theorem SameView.filter_walk_eq
    (same : SameView tree other)
    {exclusion : Exclusion}
    (hides : exclusion.HidesState)
    (directory : tree.node? [".qgate"] = some .folder)
    (otherDirectory : other.node? [".qgate"] = some .folder)
    (keeps_eq : keeps other exclusion = keeps tree exclusion) :
    (walk other).filter (keeps other exclusion) = (walk tree).filter (keeps tree exclusion) := by
  obtain ⟨depth, walks⟩ := exists_walk_eq tree
  obtain ⟨otherDepth, otherWalks⟩ := exists_walk_eq other
  let fuel := depth + otherDepth
  rw [walks (fuel + 1) (by omega), otherWalks (fuel + 1) (by omega),
    filter_filesBelow_eq hides directory, filter_filesBelow_eq hides otherDirectory, same.outside,
    same.enter_eq, keeps_eq]
  refine List.flatMap_congr fun entry member => ?_
  obtain ⟨isOutside, isOutermost⟩ := List.mem_filter.mp member
  have elsewhere : entry.1.head? ≠ some ".qgate" := by
    simpa using (List.mem_filter.mp isOutside).2
  have inside : entry.1 ≠ [] := by
    rintro atRoot
    simp [atRoot] at isOutermost
  rw [visit, visit, same.filesBelow_eq inside elsewhere]

end Scope
end QualityGate
