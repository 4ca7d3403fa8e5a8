import QualityGate.Tree
import Mathlib.Data.List.Basic

/-!
# Files in a folder

A path can denote a file in a folder directly below the root of a project.  What the operations on
such a path do is said in terms of two nodes: the folder and the file.
-/

namespace QualityGate
namespace Tree

/-- The path denotes a file in a folder directly below the root, in every project. -/
structure Denotes (path folder name : String) : Prop where
  route : ∀ tree : Tree, tree.route? path = some [.name folder, .name name]
  file : asksFolder path = false

/-- The files without what is under a list of names. -/
def without (tree : Tree) (names : List String) : Tree :=
  { tree with entries := tree.entries.filter fun entry => entry.1 != names }

/-- Everything else stays where it is. -/
theorem node?_without_of_ne
    (tree : Tree)
    {names others : List String}
    (differs : others ≠ names) :
    (tree.without names).node? others = tree.node? others := by
  have kept : ∀ entries : List (List String × Node),
      (entries.filter fun entry => entry.1 != names).lookup others = entries.lookup others := by
    intro entries
    induction entries with
    | nil => rfl
    | cons entry rest inductionHypothesis =>
      obtain ⟨place, node⟩ := entry
      by_cases here : place = names
      · rw [List.filter_cons_of_neg (by simp [here]), inductionHypothesis, List.lookup_cons,
          beq_eq_false_iff_ne.mpr (by rw [here]; exact differs)]
      · rw [List.filter_cons_of_pos (by simpa using here), List.lookup_cons, List.lookup_cons,
          inductionHypothesis]
  rw [node?, node?, without, kept]

/-- Nothing is found where something was removed. -/
theorem node?_without_self
    (tree : Tree)
    {names : List String}
    (inside : names ≠ []) :
    (tree.without names).node? names = none := by
  have gone : (tree.entries.filter fun entry => entry.1 != names).lookup names = none := by
    simp only [List.lookup_eq_none_iff, List.mem_filter]
    grind
  simp [node?, without, inside, gone]

/-- A file can be written exactly where the folder around it exists and no folder is in its place. -/
theorem write_eq_ok_iff
    (tree : Tree)
    (path : String)
    (content : Content)
    (changed : Tree) :
    tree.write path content = .ok changed ↔
      ∃ names, tree.resolve path = .ok names ∧ asksFolder path = false ∧
        tree.node? names.dropLast = some .folder ∧ tree.node? names ≠ some .folder ∧
        changed = tree.put names (.file content) := by
  unfold write
  cases resolved : tree.resolve path with
  | error fault => simp [bind, Except.bind]
  | ok names =>
    simp only [bind, Except.bind, Except.ok.injEq, exists_eq_left']
    cases asksFolder path with
    | true => simp
    | false =>
      simp only [Bool.false_eq_true, if_false, true_and]
      cases around : tree.node? names.dropLast with
      | none => simp
      | some outer =>
        cases outer with
        | file held => simp
        | folder =>
          cases there : tree.node? names with
          | none => simp [eq_comm]
          | some node => cases node <;> simp [eq_comm]

/-- A file is found exactly where the path leads to it and does not ask for a folder. -/
theorem find_eq_file_iff
    (tree : Tree)
    (path : String)
    (content : Content) :
    tree.find path = .ok (.file content) ↔
      ∃ names, tree.resolve path = .ok names ∧ asksFolder path = false ∧
        tree.node? names = some (.file content) := by
  unfold find
  cases resolved : tree.resolve path with
  | error fault => simp [bind, Except.bind]
  | ok names =>
    simp only [bind, Except.bind, Except.ok.injEq, exists_eq_left']
    cases tree.node? names with
    | none => simp
    | some node => cases node <;> cases asksFolder path <;> simp

/-! ## The same folders -/

/-- The same places are folders in both directories. -/
structure SameFolders (tree other : Tree) : Prop where
  root : other.root = tree.root
  folder_iff : ∀ names, other.node? names = some .folder ↔ tree.node? names = some .folder

/-- Where a step leads from a folder; nothing is above the root. -/
def stepFrom? (reached : List String) : Component → Option (List String)
  | .name name => some (reached ++ [name])
  | .parent => if reached.isEmpty then none else some reached.dropLast
  | _ => some reached

/-- Steps are taken one by one, each of them in a folder. -/
theorem follow_cons_eq_ok_iff
    (tree : Tree)
    (step : Component)
    (rest : List Component)
    (reached names : List String) :
    tree.follow (step :: rest) reached = .ok names ↔
      tree.node? reached = some .folder ∧
        ∃ next, stepFrom? reached step = some next ∧ tree.follow rest next = .ok names := by
  cases there : tree.node? reached with
  | none => cases step <;> simp [follow, there]
  | some node =>
    cases node with
    | file content => cases step <;> simp [follow, there]
    | folder =>
      cases step with
      | parent =>
        cases reached with
        | nil => simp [follow, there, stepFrom?]
        | cons name names => simp [follow, there, stepFrom?]
      | name name => simp [follow, there, stepFrom?]
      | root => simp [follow, there, stepFrom?]
      | current => simp [follow, there, stepFrom?]

namespace SameFolders

variable {tree other : Tree}

theorem symm (same : SameFolders tree other) : SameFolders other tree :=
  ⟨same.root.symm, fun names => (same.folder_iff names).symm⟩

theorem follow_eq_ok
    (same : SameFolders tree other)
    {steps : List Component}
    {reached names : List String}
    (followed : tree.follow steps reached = .ok names) :
    other.follow steps reached = .ok names := by
  induction steps generalizing reached with
  | nil => exact followed
  | cons step rest inductionHypothesis =>
    obtain ⟨isFolder, next, stepped, goesOn⟩ := (follow_cons_eq_ok_iff ..).mp followed
    exact (follow_cons_eq_ok_iff ..).mpr
      ⟨(same.folder_iff reached).mpr isFolder, next, stepped, inductionHypothesis goesOn⟩

/-- A path leads to the same place. -/
theorem resolve_eq_ok
    (same : SameFolders tree other)
    {path : String}
    {names : List String}
    (resolved : tree.resolve path = .ok names) :
    other.resolve path = .ok names := by
  have route : other.route? path = tree.route? path := by
    unfold route?
    rw [same.root]
  unfold resolve at resolved ⊢
  rw [route]
  cases steps : tree.route? path with
  | none =>
    rw [steps] at resolved
    cases resolved
  | some steps =>
    rw [steps] at resolved
    exact same.follow_eq_ok resolved

theorem resolve_eq_ok_iff
    (same : SameFolders tree other)
    (path : String)
    (names : List String) :
    other.resolve path = .ok names ↔ tree.resolve path = .ok names :=
  ⟨same.symm.resolve_eq_ok, same.resolve_eq_ok⟩

end SameFolders

/-- A file that is put where no folder is leaves the folders. -/
theorem sameFolders_put_file
    (tree : Tree)
    {names : List String}
    (content : Content)
    (free : tree.node? names ≠ some .folder) :
    SameFolders tree (tree.put names (.file content)) where
  root := rfl
  folder_iff others := by
    have inside : names ≠ [] := by
      rintro rfl
      exact free rfl
    by_cases here : others = names
    · rw [here, node?_put_self _ _ inside]
      simp [free]
    · rw [node?_put_of_ne _ _ here]

/-! ## Files in a folder -/

section Paths

variable {path folder name : String} {tree changed : Tree}

/-- A path is resolved exactly if its folder exists. -/
theorem Denotes.resolve_eq_ok_iff
    (denotes : Denotes path folder name)
    (names : List String) :
    tree.resolve path = .ok names ↔
      tree.node? [folder] = some .folder ∧ names = [folder, name] := by
  have followed : tree.resolve path = tree.follow [.name name] [folder] := by
    unfold resolve
    rw [denotes.route tree]
    rfl
  rw [followed, follow]
  split
  · rename_i missing
    simp [missing]
  · rename_i isFile
    simp [isFile]
  · rename_i isFolder
    simp [isFolder, follow, eq_comm]

/-- A file is found exactly where it stands in its folder. -/
theorem Denotes.find_eq_file_iff
    (denotes : Denotes path folder name)
    (content : Content) :
    tree.find path = .ok (.file content) ↔
      tree.node? [folder] = some .folder ∧ tree.node? [folder, name] = some (.file content) := by
  rw [Tree.find_eq_file_iff]
  constructor
  · rintro ⟨names, resolved, -, isFile⟩
    obtain ⟨isFolder, rfl⟩ := (denotes.resolve_eq_ok_iff names).mp resolved
    exact ⟨isFolder, isFile⟩
  · rintro ⟨isFolder, isFile⟩
    exact ⟨_, (denotes.resolve_eq_ok_iff _).mpr ⟨isFolder, rfl⟩, denotes.file, isFile⟩

/-- The text of a file is read exactly where it stands in its folder. -/
theorem Denotes.read_eq_ok_iff
    (denotes : Denotes path folder name)
    (text : String) :
    tree.read path = .ok text ↔
      tree.node? [folder] = some .folder ∧
        tree.node? [folder, name] = some (.file (.text text)) := by
  rw [← denotes.find_eq_file_iff]
  unfold read
  cases tree.find path with
  | error fault => simp [bind, Except.bind]
  | ok node =>
    simp only [bind, Except.bind]
    split <;> simp_all

/-- A file that does not stand in its folder is missing. -/
theorem Denotes.read_eq_missing
    (denotes : Denotes path folder name)
    (isFolder : tree.node? [folder] = some .folder)
    (absent : tree.node? [folder, name] = none) :
    tree.read path = .error .missing := by
  have resolved := (denotes.resolve_eq_ok_iff [folder, name]).mpr ⟨isFolder, rfl⟩
  simp [read, find, resolved, absent, bind, Except.bind]

/-- A file that was written stands in its folder. -/
theorem Denotes.eq_of_write
    (denotes : Denotes path folder name)
    {content : Content}
    (written : tree.write path content = .ok changed) :
    tree.node? [folder] = some .folder ∧ changed = tree.put [folder, name] (.file content) := by
  obtain ⟨names, resolved, -, -, -, changed_eq⟩ := (write_eq_ok_iff ..).mp written
  obtain ⟨isFolder, rfl⟩ := (denotes.resolve_eq_ok_iff names).mp resolved
  exact ⟨isFolder, changed_eq⟩

/-- No folder was in the place of a file that was written. -/
theorem Denotes.free_of_write
    (denotes : Denotes path folder name)
    {content : Content}
    (written : tree.write path content = .ok changed) :
    tree.node? [folder, name] ≠ some .folder := by
  obtain ⟨names, resolved, -, -, free, -⟩ := (write_eq_ok_iff ..).mp written
  obtain ⟨-, rfl⟩ := (denotes.resolve_eq_ok_iff names).mp resolved
  exact free

/-- A file can be written in its folder unless a folder is in its place. -/
theorem Denotes.write_eq_ok
    (denotes : Denotes path folder name)
    (isFolder : tree.node? [folder] = some .folder)
    (free : tree.node? [folder, name] ≠ some .folder)
    (content : Content) :
    tree.write path content = .ok (tree.put [folder, name] (.file content)) := by
  have resolved := (denotes.resolve_eq_ok_iff [folder, name]).mpr ⟨isFolder, rfl⟩
  exact (write_eq_ok_iff ..).mpr ⟨_, resolved, denotes.file, isFolder, free, rfl⟩

/-- A file that was removed stood in its folder. -/
theorem Denotes.eq_of_remove
    (denotes : Denotes path folder name)
    (removed : tree.remove path = .ok changed) :
    tree.node? [folder] = some .folder ∧ changed = tree.without [folder, name] := by
  unfold remove at removed
  cases resolved : tree.resolve path with
  | error fault =>
    rw [resolved] at removed
    cases removed
  | ok names =>
    obtain ⟨isFolder, rfl⟩ := (denotes.resolve_eq_ok_iff names).mp resolved
    simp only [resolved, bind, Except.bind] at removed
    refine ⟨isFolder, ?_⟩
    cases there : tree.node? [folder, name] with
    | none => simp [there] at removed
    | some node =>
      cases node with
      | folder => simp [there] at removed
      | file before => simpa [there, without, eq_comm] using removed

/-- A file that stands in its folder can be removed. -/
theorem Denotes.remove_eq_ok
    (denotes : Denotes path folder name)
    {content : Content}
    (isFolder : tree.node? [folder] = some .folder)
    (isFile : tree.node? [folder, name] = some (.file content)) :
    tree.remove path = .ok (tree.without [folder, name]) := by
  have resolved := (denotes.resolve_eq_ok_iff [folder, name]).mpr ⟨isFolder, rfl⟩
  simp [remove, resolved, isFile, without, bind, Except.bind]

/-- A file that was moved within its folder has the content it had. -/
theorem Denotes.eq_of_move
    {source sourceName : String}
    (sourceDenotes : Denotes source folder sourceName)
    (denotes : Denotes path folder name)
    (moved : tree.move source path = .ok changed) :
    ∃ content, tree.node? [folder] = some .folder ∧
      tree.node? [folder, sourceName] = some (.file content) ∧
      changed = (tree.put [folder, name] (.file content)).without [folder, sourceName] := by
  unfold move at moved
  cases found : tree.find source with
  | error fault =>
    rw [found] at moved
    cases moved
  | ok node =>
    cases node with
    | folder => simp [found, bind, Except.bind] at moved
    | file content =>
      obtain ⟨isFolder, isFile⟩ := (sourceDenotes.find_eq_file_iff content).mp found
      refine ⟨content, isFolder, isFile, ?_⟩
      cases written : tree.write path content with
      | error fault => simp [found, written, bind, Except.bind] at moved
      | ok between =>
        simp only [found, written, bind, Except.bind] at moved
        rw [(sourceDenotes.eq_of_remove moved).2, (denotes.eq_of_write written).2]

/-- A file can be moved within its folder unless a folder is in the place it is moved to. -/
theorem Denotes.move_eq_ok
    {source sourceName : String}
    (sourceDenotes : Denotes source folder sourceName)
    (denotes : Denotes path folder name)
    (differs : sourceName ≠ name)
    {content : Content}
    (isFolder : tree.node? [folder] = some .folder)
    (isFile : tree.node? [folder, sourceName] = some (.file content))
    (free : tree.node? [folder, name] ≠ some .folder) :
    tree.move source path =
      .ok ((tree.put [folder, name] (.file content)).without [folder, sourceName]) := by
  have found := (sourceDenotes.find_eq_file_iff content).mpr ⟨isFolder, isFile⟩
  have written := denotes.write_eq_ok isFolder free content
  have stillFolder : (tree.put [folder, name] (.file content)).node? [folder] = some .folder := by
    rwa [node?_put_of_ne _ _ (by simp)]
  have stillFile : (tree.put [folder, name] (.file content)).node? [folder, sourceName] =
      some (.file content) := by
    rwa [node?_put_of_ne _ _ (by simpa using differs)]
  have removed := sourceDenotes.remove_eq_ok stillFolder stillFile
  simp only [move, found, written, removed, bind, Except.bind]

end Paths

end Tree
end QualityGate
