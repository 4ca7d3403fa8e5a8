import QualityGate.Proofs.Location
import QualityGate.Proofs.Scope.Rules
import QualityGate.Scope.Resolve

/-!
# The state directory is out of scope

The folder rules of every project name the state directory.  A path in scope leads to a file, and
the names of that file stand in the path.  So no path in scope leads into the state directory, be it
listed by git or found by a walk, and whatever the settings say.
-/

namespace QualityGate
namespace Scope

namespace Exclusion

/-- A rule of one segment is about a folder with that name. -/
theorem occursIn_singleton_iff
    (name : String)
    (folders : List String) :
    occursIn [name] folders = true ↔ name ∈ folders := by
  rw [occursIn_iff, List.singleton_infix_iff]

/-- The state directory is left out by a rule. -/
def HidesState (exclusion : Exclusion) : Prop :=
  [".qgate"] ∈ exclusion.folderRules

/-- No settings and no list of ignored files bring the state directory back. -/
theorem hidesState_ofProject
    (tree : Tree)
    (settings : ScopeSettings) :
    (ofProject tree settings).HidesState := by
  have member : [".qgate"] ∈ (ofRules (defaultFolders ++ settings.excludeDirs)
      (defaultFiles ++ settings.excludeFiles)).folderRules :=
    mem_folderRules_iff.mpr
      ⟨by simp, ".qgate", List.mem_append_left _ (by decide), by decide +kernel⟩
  unfold HidesState ofProject
  generalize ofRules (defaultFolders ++ settings.excludeDirs)
    (defaultFiles ++ settings.excludeFiles) = rules at member ⊢
  dsimp only
  split <;> exact member

theorem HidesState.excludes
    {exclusion : Exclusion}
    (hides : exclusion.HidesState)
    {path : String}
    (inside : ".qgate" ∈ (Location.names path).dropLast) :
    exclusion.excludes path = true := by
  have ruled : exclusion.folderRules.any
      (fun rule => occursIn rule (Location.names path).dropLast) = true :=
    List.any_eq_true.mpr ⟨[".qgate"], hides, (occursIn_singleton_iff ..).mpr inside⟩
  rw [Exclusion.excludes]
  split
  · rfl
  · rw [ruled]
    rfl

end Exclusion

/-! ## Paths in scope -/

/-- A path is kept: it is not left out, and there is a file. -/
def keeps (tree : Tree) (exclusion : Exclusion) (path : String) : Bool :=
  !exclusion.excludes path && tree.isFile path

theorem keeps_iff
    (tree : Tree)
    (exclusion : Exclusion)
    (path : String) :
    keeps tree exclusion path = true ↔
      exclusion.excludes path = false ∧ ∃ content, tree.find path = .ok (.file content) := by
  have isFile_iff : tree.isFile path = true ↔ ∃ content, tree.find path = .ok (.file content) := by
    unfold Tree.isFile
    split
    · rename_i content found
      simp [found]
    · rename_i notFile
      simpa using notFile
  rw [keeps, Bool.and_eq_true, isFile_iff, Bool.not_eq_true']

/-- The files of a run are kept. -/
theorem keeps_of_mem_resolve
    {tree : Tree}
    {exclusion : Exclusion}
    {git : Git}
    {pushBase? : Option String}
    {context : Context}
    {path : String}
    (member : path ∈ (resolve tree exclusion git pushBase? context).files.paths) :
    keeps tree exclusion path = true :=
  (List.mem_filter.mp (FileSet.mem_of_mem_ofList member)).2

/-- Of at least two names that stand in a list in this order, the first one is not the last of the
list. -/
theorem mem_dropLast_of_sublist
    {first second : String}
    {rest names : List String}
    (sublist : (first :: second :: rest).Sublist names) :
    first ∈ names.dropLast := by
  induction names with
  | nil => cases sublist
  | cons name others inductionHypothesis =>
    cases sublist with
    | cons _ later =>
      have : others ≠ [] := by
        rintro rfl
        cases later
      rw [List.dropLast_cons_of_ne_nil this]
      exact List.mem_cons_of_mem _ (inductionHypothesis later)
    | cons_cons _ later =>
      have : others ≠ [] := by
        rintro rfl
        cases later
      rw [List.dropLast_cons_of_ne_nil this]
      exact List.mem_cons_self

section Kept

variable {tree : Tree} {exclusion : Exclusion} {path : String} {names : List String}

/-- A path that is kept does not lead into the state directory. -/
theorem not_prefix_of_keeps
    (hides : exclusion.HidesState)
    (kept : keeps tree exclusion path = true)
    (resolved : tree.resolve path = .ok names)
    (name : String) :
    ¬[".qgate", name] <+: names := by
  rintro ⟨rest, rfl⟩
  have included := ((keeps_iff ..).mp kept).1
  rw [hides.excludes (mem_dropLast_of_sublist (Tree.sublist_of_resolve resolved))] at included
  cases included

/-- A path that goes on from the state directory is not kept. -/
theorem keeps_below_stateDir
    (hides : exclusion.HidesState)
    (directory : tree.node? [".qgate"] = some .folder)
    (rest : List String) :
    keeps tree exclusion (String.intercalate "/" (".qgate" :: rest)) = false := by
  rw [Bool.eq_false_iff]
  intro kept
  obtain ⟨included, content, found⟩ := (keeps_iff ..).mp kept
  obtain ⟨names, resolved, -, isFile⟩ := (Tree.find_eq_file_iff ..).mp found
  obtain ⟨others, names_eq⟩ :=
    Location.exists_names_cons (show _ = [Component.name ".qgate"] by decide +kernel) rest
  have sublist := Tree.sublist_of_resolve resolved
  rw [names_eq] at sublist
  cases others with
  | nil =>
    -- The path leads to the project or to the state directory, which are folders.
    rcases List.sublist_singleton.mp sublist with rfl | rfl
    · cases isFile
    · rw [directory] at isFile
      cases isFile
  | cons name more =>
    have inside : ".qgate" ∈
        (Location.names (String.intercalate "/" (".qgate" :: rest))).dropLast := by
      rw [names_eq]
      exact List.mem_cons_self
    rw [hides.excludes inside] at included
    cases included

end Kept
end Scope
end QualityGate
