import QualityGate.Detector
import QualityGate.Policy.Basic
import QualityGate.Proofs.Scope.Walk

/-!
# States that runs cannot tell apart

A run leaves files of the state directory: those of the lock and the report.  Two states of a project
that differ in nothing but these files have the same files in scope, the same policy and the same
recorded sizes, and every gate finds the same in them.
-/

namespace QualityGate

/-- The files of the state directory that runs write. -/
def Run.stateFiles : List String :=
  "report.json" :: Lock.fileNames

/-- Two results with the same values differ in their failures only. -/
theorem toOption_eq_of_iff
    {ε α : Type}
    {first second : Except ε α}
    (same : ∀ value, first = .ok value ↔ second = .ok value) :
    first.toOption = second.toOption := by
  cases first with
  | ok value => rw [(same value).mp rfl]
  | error failure =>
    cases second with
    | ok value => cases (same value).mpr rfl
    | error other => rfl

namespace Tree

/-- Two states of a project differ in nothing but the files that runs write, and none of these is a
folder. -/
structure Alike (tree other : Tree) : Prop where
  root : other.root = tree.root
  outside : other.outside = tree.outside
  directory : tree.node? [".qgate"] = some .folder
  node?_eq : ∀ names, (∀ name ∈ Run.stateFiles, names ≠ [".qgate", name]) →
    other.node? names = tree.node? names
  free : ∀ name ∈ Run.stateFiles, tree.node? [".qgate", name] ≠ some .folder
  otherFree : ∀ name ∈ Run.stateFiles, other.node? [".qgate", name] ≠ some .folder

/-- What is found under a path is known from the place to which it leads. -/
theorem find_eq_of_resolve
    {tree other : Tree}
    {path : String}
    {names : List String}
    (resolved : tree.resolve path = .ok names)
    (otherResolved : other.resolve path = .ok names)
    (node?_eq : other.node? names = tree.node? names) :
    other.find path = tree.find path := by
  unfold find
  rw [resolved, otherResolved]
  simp only [bind, Except.bind, node?_eq]

/-- A text is read exactly where a file with that text is found. -/
theorem read_eq_ok_iff
    (tree : Tree)
    (path text : String) :
    tree.read path = .ok text ↔ tree.find path = .ok (.file (.text text)) := by
  unfold read
  cases tree.find path with
  | error fault => simp [bind, Except.bind]
  | ok node =>
    simp only [bind, Except.bind]
    split <;> simp

theorem readLeading_eq_ok_iff
    (tree : Tree)
    (path text : String) :
    tree.readLeading path = .ok text ↔
      ∃ content, tree.find path = .ok (.file content) ∧ content.leadingText = text := by
  unfold readLeading
  cases tree.find path with
  | error fault => simp [bind, Except.bind]
  | ok node => cases node <;> simp [bind, Except.bind]

namespace Alike

variable {tree other : Tree}

/-- Edits of the files that runs write make no difference. -/
theorem of_edited
    (edited : Edited Run.stateFiles tree other)
    (directory : tree.node? [".qgate"] = some .folder)
    (free : ∀ name ∈ Run.stateFiles, tree.node? [".qgate", name] ≠ some .folder) :
    Alike tree other where
  root := edited.root_eq
  outside := edited.outside_eq
  directory := directory
  node?_eq names elsewhere := by
    by_cases atDirectory : names = [".qgate"]
    · rw [atDirectory, directory, edited.isFolder directory]
    · exact edited.node?_eq atDirectory elsewhere
  free := free
  otherFree name member := edited.ne_folder (free name member)

variable (alike : Alike tree other)
include alike

theorem otherDirectory : other.node? [".qgate"] = some .folder := by
  rw [alike.node?_eq _ (by simp)]
  exact alike.directory

theorem sameFolders : SameFolders tree other where
  root := alike.root
  folder_iff names := by
    by_cases written : ∀ name ∈ Run.stateFiles, names ≠ [".qgate", name]
    · rw [alike.node?_eq names written]
    · push Not at written
      obtain ⟨name, member, rfl⟩ := written
      simp [alike.free name member, alike.otherFree name member]

/-- The same file is found under a path that leads to none of the files that runs write. -/
theorem find_eq_file_iff
    {path : String}
    (elsewhere : ∀ names, tree.resolve path = .ok names →
      ∀ name ∈ Run.stateFiles, names ≠ [".qgate", name])
    (content : Content) :
    other.find path = .ok (.file content) ↔ tree.find path = .ok (.file content) := by
  rw [Tree.find_eq_file_iff, Tree.find_eq_file_iff]
  refine exists_congr fun names => ?_
  rw [alike.sameFolders.resolve_eq_ok_iff]
  refine and_congr_right fun resolved => ?_
  rw [alike.node?_eq names (elsewhere names resolved)]

theorem toOption_read_eq
    {path : String}
    (elsewhere : ∀ names, tree.resolve path = .ok names →
      ∀ name ∈ Run.stateFiles, names ≠ [".qgate", name]) :
    (other.read path).toOption = (tree.read path).toOption :=
  toOption_eq_of_iff fun text => by
    rw [read_eq_ok_iff, read_eq_ok_iff, alike.find_eq_file_iff elsewhere]

theorem toOption_readLeading_eq
    {path : String}
    (elsewhere : ∀ names, tree.resolve path = .ok names →
      ∀ name ∈ Run.stateFiles, names ≠ [".qgate", name]) :
    (other.readLeading path).toOption = (tree.readLeading path).toOption :=
  toOption_eq_of_iff fun text => by
    simp only [readLeading_eq_ok_iff, alike.find_eq_file_iff elsewhere]

/-- Another file of the state directory is the same. -/
theorem find_eq
    {path name : String}
    (denotes : Denotes path ".qgate" name)
    (elsewhere : name ∉ Run.stateFiles) :
    other.find path = tree.find path := by
  refine find_eq_of_resolve ((denotes.resolve_eq_ok_iff _).mpr ⟨alike.directory, rfl⟩)
    ((denotes.resolve_eq_ok_iff _).mpr ⟨alike.otherDirectory, rfl⟩) (alike.node?_eq _ ?_)
  rintro written member same
  cases same
  exact elsewhere member

end Alike
end Tree

/-! ## Scope -/

namespace Scope

variable {tree other : Tree}

/-- The exclusion of a project does not depend on the files that runs write. -/
theorem Exclusion.ofProject_eq_of_edited
    (edited : Tree.Edited Run.stateFiles tree other)
    (settings : ScopeSettings) :
    ofProject other settings = ofProject tree settings := by
  have resolved (tree : Tree) : tree.resolve ignoreFile = .ok [".qgateignore"] := rfl
  have found := Tree.find_eq_of_resolve (resolved tree) (resolved other)
    (edited.node?_eq (by decide) (by decide))
  unfold ofProject Tree.readLeading
  rw [found]

/-- The kinds of lists of ignored files are not among the files that runs write. -/
theorem exists_last_of_mem_ignoreLists
    {list : String}
    (member : list ∈ ignoreLists) :
    ∃ name, ((Text.splitWhere (· == '/') list).filterMap Location.ofPiece).getLast? =
      some (.name name) ∧ name ∉ Run.stateFiles := by
  simp only [ignoreLists, List.mem_cons, List.not_mem_nil, or_false] at member
  rcases member with rfl | rfl | rfl | rfl
  · exact ⟨".qgateignore", by decide +kernel⟩
  · exact ⟨".ignore", by decide +kernel⟩
  · exact ⟨".gitignore", by decide +kernel⟩
  · exact ⟨"exclude", by decide +kernel⟩

theorem rulesIn_eq
    (tree : Tree)
    (folder : List String)
    (list : String) :
    rulesIn tree folder list =
      ((tree.readLeading (String.intercalate "/" (folder ++ [list]))).toOption.map
        Ignore.parse).getD [] := by
  rw [rulesIn]
  cases tree.readLeading (String.intercalate "/" (folder ++ [list])) <;> rfl

/-- Projects that are alike look the same to a walk. -/
theorem sameView_of_alike (alike : Tree.Alike tree other) : SameView tree other where
  outside := alike.outside
  rulesIn folder list member := by
    obtain ⟨last, isLast, unwritten⟩ := exists_last_of_mem_ignoreLists member
    rw [rulesIn_eq, rulesIn_eq, alike.toOption_readLeading_eq]
    rintro names resolved name written rfl
    have leads := Tree.getLast?_of_resolve (Location.getLast?_components isLast folder) resolved
    rcases leads with atRoot | atEnd
    · cases atRoot
    · cases atEnd
      exact unwritten written

/-- The same paths are kept. -/
theorem keeps_eq_of_alike
    (alike : Tree.Alike tree other)
    {exclusion : Exclusion}
    (hides : exclusion.HidesState) :
    keeps other exclusion = keeps tree exclusion := by
  funext path
  cases included : exclusion.excludes path with
  | true => simp [keeps, included]
  | false =>
    rw [Bool.eq_iff_iff, keeps_iff, keeps_iff]
    refine and_congr_right fun _ => exists_congr fun content => alike.find_eq_file_iff ?_ content
    rintro names resolved name written rfl
    have inside := mem_dropLast_of_sublist (Tree.sublist_of_resolve resolved)
    rw [hides.excludes inside] at included
    cases included

/-- The same files are chosen, from the same origin. -/
theorem resolve_eq_of_alike
    (alike : Tree.Alike tree other)
    {exclusion : Exclusion}
    (hides : exclusion.HidesState)
    (git : Git)
    (pushBase? : Option String)
    (context : Context) :
    (resolve other exclusion git pushBase? context).files =
        (resolve tree exclusion git pushBase? context).files ∧
      (resolve other exclusion git pushBase? context).origin =
        (resolve tree exclusion git pushBase? context).origin := by
  have keeps_eq := keeps_eq_of_alike alike hides
  have walked := (sameView_of_alike alike).filter_walk_eq hides alike.directory
    alike.otherDirectory keeps_eq
  have files_eq (tree : Tree) : (resolve tree exclusion git pushBase? context).files =
      .ofList ((candidates tree git pushBase? context).2.1.filter (keeps tree exclusion)) := rfl
  have origin_eq (tree : Tree) : (resolve tree exclusion git pushBase? context).origin =
      (candidates tree git pushBase? context).1 := rfl
  rw [files_eq, files_eq, origin_eq, origin_eq]
  unfold candidates
  split
  · split
    · exact ⟨by rw [keeps_eq], rfl⟩
    · exact ⟨congrArg FileSet.ofList walked, rfl⟩
  · exact ⟨congrArg FileSet.ofList walked, rfl⟩

end Scope

/-! ## Policy, recorded sizes and sources -/

theorem Source.load_eq
    (tree : Tree)
    (files : FileSet)
    (wanted : String → Bool) :
    load tree files wanted = (files.paths.filter wanted).filterMap fun path =>
      (tree.read path).toOption.map (Source.mk path) := by
  rw [load, loadInBatches_eq]
  refine List.filterMap_congr fun path _ => ?_
  unfold read?
  cases tree.read path <;> rfl

section Unchanged

variable {tree other : Tree} (alike : Tree.Alike tree other)
include alike

theorem Policy.load_eq_of_alike (now : Instant) : load other now = load tree now := by
  have denotes : Tree.Denotes Settings.exceptionsPath ".qgate" "exceptions.json" :=
    ⟨fun _ => rfl, rfl⟩
  have found := alike.find_eq denotes (by decide)
  unfold load readFrom Tree.holds Tree.read
  rw [found, alike.root]

theorem Size.Baseline.load_eq_of_alike : load other = load tree := by
  have denotes : Tree.Denotes Settings.baselinePath ".qgate" "god-object-baseline.json" :=
    ⟨fun _ => rfl, rfl⟩
  have found := alike.find_eq denotes (by decide)
  unfold load Tree.holds Tree.read
  rw [found]

/-- The same sources are loaded from files that do not lead into the state directory. -/
theorem Source.load_eq_of_alike
    {files : FileSet}
    (elsewhere : ∀ path ∈ files.paths, ∀ names, tree.resolve path = .ok names →
      ∀ name, ¬[".qgate", name] <+: names)
    (wanted : String → Bool) :
    load other files wanted = load tree files wanted := by
  rw [load_eq, load_eq]
  refine List.filterMap_congr fun path member => ?_
  rw [alike.toOption_read_eq]
  rintro names resolved name - rfl
  exact elsewhere path (List.mem_of_mem_filter member) _ resolved name List.prefix_rfl

/-- Every gate finds the same. -/
theorem Gate.scan_eq_of_alike
    (gate : Gate)
    (settings : Settings)
    (now : Instant)
    {files : FileSet}
    (elsewhere : ∀ path ∈ files.paths, ∀ names, tree.resolve path = .ok names →
      ∀ name, ¬[".qgate", name] <+: names) :
    gate.scan settings now other files = gate.scan settings now tree files := by
  have sources := Source.load_eq_of_alike alike elsewhere
  cases gate with
  | naming => simp only [scan, Naming.scan, sources]
  | duplication => simp only [scan, Duplication.scan, sources]
  | godObject =>
    simp only [scan, Size.scan, Size.baselineOrNotice, sources,
      Size.Baseline.load_eq_of_alike alike]
  | hiddenTodo => simp only [scan, HiddenTodo.scan, sources]
  | documentation => simp only [scan, Documentation.scan, sources]
  | placeholder => simp only [scan, Placeholder.scan, sources]

end Unchanged
end QualityGate
