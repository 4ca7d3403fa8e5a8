import QualityGate.Proofs.Lock.Ownership

/-!
# Edits of the state directory

Whoever takes the lock, releases it or clears it edits some files of the state directory, and these
files have known names.  What is elsewhere stays as it is: every file, and also the order in which
the files are listed.
-/

namespace QualityGate

/-! ## Edits -/

namespace Tree

/-- The files after edits in the state directory: the directory was made, and files in it that have
the given names were written or removed. -/
inductive Edited (names : List String) (tree : Tree) : Tree → Prop where
  | refl : Edited names tree tree
  | made {changed : Tree} :
      Edited names tree changed → Edited names tree (changed.put [".qgate"] .folder)
  | written {changed : Tree} {name : String} (content : Content) :
      Edited names tree changed → name ∈ names →
        Edited names tree (changed.put [".qgate", name] (.file content))
  | removed {changed : Tree} {name : String} :
      Edited names tree changed → name ∈ names →
        Edited names tree (changed.without [".qgate", name])

/-- The entries that are not in the state directory. -/
def outside (tree : Tree) : List (List String × Node) :=
  tree.entries.filter fun entry => entry.1.head? != some ".qgate"

theorem outside_without
    (tree : Tree)
    {names : List String}
    (inside : names.head? = some ".qgate") :
    (tree.without names).outside = tree.outside := by
  unfold outside without
  rw [List.filter_filter]
  apply List.filter_congr
  intro entry _
  by_cases here : entry.1 = names
  · simp [here, inside]
  · simp [here]

theorem outside_put
    (tree : Tree)
    {names : List String}
    (node : Node)
    (inside : names.head? = some ".qgate") :
    (tree.put names node).outside = tree.outside := by
  have kept := tree.outside_without inside
  unfold outside without at kept
  unfold outside put
  rw [List.filter_append, kept]
  simp [inside]

namespace Edited

variable {names : List String} {tree between changed : Tree}

theorem trans
    (first : Edited names tree between)
    (second : Edited names between changed) :
    Edited names tree changed := by
  induction second with
  | refl => exact first
  | made _ inductionHypothesis => exact inductionHypothesis.made
  | written content _ member inductionHypothesis => exact inductionHypothesis.written content member
  | removed _ member inductionHypothesis => exact inductionHypothesis.removed member

theorem mono
    {more : List String}
    (edited : Edited names tree changed)
    (subset : names ⊆ more) :
    Edited more tree changed := by
  induction edited with
  | refl => exact refl
  | made _ inductionHypothesis => exact inductionHypothesis.made
  | written content _ member inductionHypothesis =>
    exact inductionHypothesis.written content (subset member)
  | removed _ member inductionHypothesis => exact inductionHypothesis.removed (subset member)

theorem root_eq (edited : Edited names tree changed) : changed.root = tree.root := by
  induction edited with
  | refl => rfl
  | made _ inductionHypothesis => exact inductionHypothesis
  | written _ _ _ inductionHypothesis => exact inductionHypothesis
  | removed _ _ inductionHypothesis => exact inductionHypothesis

/-- What is not in the state directory stays, in its order. -/
theorem outside_eq (edited : Edited names tree changed) : changed.outside = tree.outside := by
  induction edited with
  | refl => rfl
  | made _ inductionHypothesis => rw [outside_put _ _ rfl, inductionHypothesis]
  | written _ _ _ inductionHypothesis => rw [outside_put _ _ rfl, inductionHypothesis]
  | removed _ _ inductionHypothesis => rw [outside_without _ rfl, inductionHypothesis]

/-- What has none of the names stays. -/
theorem node?_eq
    (edited : Edited names tree changed)
    {others : List String}
    (notDirectory : others ≠ [".qgate"])
    (elsewhere : ∀ name ∈ names, others ≠ [".qgate", name]) :
    changed.node? others = tree.node? others := by
  induction edited with
  | refl => rfl
  | made _ inductionHypothesis => rw [node?_put_of_ne _ _ notDirectory, inductionHypothesis]
  | written _ _ member inductionHypothesis =>
    rw [node?_put_of_ne _ _ (elsewhere _ member), inductionHypothesis]
  | removed _ member inductionHypothesis =>
    rw [node?_without_of_ne _ (elsewhere _ member), inductionHypothesis]

/-- The state directory stays a folder. -/
theorem isFolder
    (edited : Edited names tree changed)
    (before : tree.node? [".qgate"] = some .folder) :
    changed.node? [".qgate"] = some .folder := by
  induction edited with
  | refl => exact before
  | made _ _ => exact node?_put_self _ _ (by simp)
  | written _ _ _ inductionHypothesis => rwa [node?_put_of_ne _ _ (by simp)]
  | removed _ _ inductionHypothesis => rwa [node?_without_of_ne _ (by simp)]

/-- No folder is made in the state directory. -/
theorem ne_folder
    (edited : Edited names tree changed)
    {name : String}
    (before : tree.node? [".qgate", name] ≠ some .folder) :
    changed.node? [".qgate", name] ≠ some .folder := by
  induction edited with
  | refl => exact before
  | made _ inductionHypothesis => rwa [node?_put_of_ne _ _ (by simp)]
  | @written changed other content _ _ inductionHypothesis =>
    by_cases same : name = other
    · rw [same, node?_put_self _ _ (by simp)]
      simp
    · rwa [node?_put_of_ne _ _ (by simpa)]
  | @removed changed other _ _ inductionHypothesis =>
    by_cases same : name = other
    · rw [same, node?_without_self _ (by simp)]
      simp
    · rwa [node?_without_of_ne _ (by simpa)]

/-- A file of the state directory was written. -/
theorem of_write
    {path name : String}
    (denotes : Denotes path ".qgate" name)
    (member : name ∈ names)
    {content : Content}
    (wrote : tree.write path content = .ok changed) :
    Edited names tree changed := by
  rw [(denotes.eq_of_write wrote).2]
  exact refl.written content member

end Edited
end Tree

/-! ## Steps that edit -/

/-- The step edits no files but those of the state directory that have the given names, also if it
fails. -/
def Effect.Edits {α : Type} (names : List String) (effect : Effect α) : Prop :=
  ∀ tree, Tree.Edited names tree (effect.runOn tree).2

namespace Effect

variable {α β : Type} {names : List String}

theorem Edits.of_unchanged
    {effect : Effect α}
    (unchanged : ∀ tree, (effect.runOn tree).2 = tree) :
    Edits names effect := by
  intro tree
  rw [unchanged]
  exact .refl

theorem Edits.bind
    {first : Effect α}
    {next : α → Effect β}
    (begins : Edits names first)
    (continues : ∀ value, Edits names (next value)) :
    Edits names (first >>= next) := by
  intro tree
  have edited := begins tree
  rw [runOn_bind]
  split
  · rename_i value between run
    rw [run] at edited
    exact edited.trans (continues value between)
  · rename_i failure between run
    rwa [run] at edited

theorem edits_get : Edits names (get : Effect Tree) :=
  .of_unchanged fun _ => rfl

theorem edits_pure (value : α) : Edits names (pure value) :=
  .of_unchanged fun _ => rfl

theorem edits_ofExcept (result : Except Failure α) : Edits names (ofExcept result) :=
  .of_unchanged fun tree => by rw [runOn_ofExcept]

theorem edits_change
    {operation : Tree → Except FileFault Tree}
    {explain : FileFault → Failure}
    (edits : ∀ tree possible, operation tree = .ok possible → Tree.Edited names tree possible) :
    Edits names (change operation explain) := by
  intro tree
  rw [runOn_change]
  split
  · rename_i possible succeeded
    exact edits tree possible succeeded
  · exact .refl

end Effect

/-! ## The lock and the report -/

namespace Lock

/-- The files of the lock. -/
def fileNames : List String :=
  ["run.lock", "run.lock.guard", "run.lock.tmp"]

section Operations

open Effect

variable {names : List String}

theorem edited_makeFolders
    {tree changed : Tree}
    (made : tree.makeFolders Settings.stateDir = .ok changed) :
    Tree.Edited names tree changed := by
  obtain ⟨-, rfl | rfl⟩ := cases_of_makeFolders made
  · exact .refl
  · exact Tree.Edited.refl.made

theorem edited_touch
    {tree changed : Tree}
    (member : "run.lock.guard" ∈ names)
    (touched : touch guardPath tree = .ok changed) :
    Tree.Edited names tree changed := by
  unfold touch at touched
  split at touched
  · cases touched
    exact .refl
  · exact .of_write denotes_guardPath member touched

theorem edited_move
    {tree changed : Tree}
    (moved : tree.move draftPath Settings.lockPath = .ok changed) :
    Tree.Edited fileNames tree changed := by
  obtain ⟨content, -, -, rfl⟩ := denotes_draftPath.eq_of_move denotes_lockPath moved
  exact (Tree.Edited.refl.written content (by decide)).removed (by decide)

theorem edited_remove
    {tree changed : Tree}
    (removed : tree.remove Settings.lockPath = .ok changed) :
    Tree.Edited fileNames tree changed := by
  rw [(denotes_lockPath.eq_of_remove removed).2]
  exact Tree.Edited.refl.removed (by decide)

theorem edits_enter (member : "run.lock.guard" ∈ names) : Edits names enter :=
  .bind (edits_change fun _ _ => edited_makeFolders) fun _ =>
    edits_change fun _ _ => edited_touch member

theorem edits_acquire
    (process : Nat)
    (now : Instant)
    (window : Int)
    (force : Bool) :
    Edits fileNames (acquire process now window force) := by
  refine .bind (edits_enter (by decide)) fun _ => .bind edits_get fun tree => ?_
  refine .bind (edits_ofExcept _) fun reading => .bind (edits_ofExcept _) fun admission => ?_
  refine .bind (.bind (edits_change ?_) fun _ => edits_change ?_) fun _ => edits_pure _
  · exact fun _ _ => .of_write denotes_draftPath (by decide)
  · exact fun _ _ => edited_move

theorem edits_release (guard : Guard) : Edits fileNames (release guard) := by
  unfold release
  split
  · refine .bind (edits_enter (by decide)) fun _ => .bind edits_get fun tree => ?_
    refine .bind (edits_ofExcept _) fun reading => ?_
    split
    · exact .bind (edits_change fun _ _ => edited_remove) fun _ => edits_pure _
    · exact edits_pure _
  · exact edits_pure _

theorem edits_clear : Edits fileNames clear := by
  refine .bind (edits_enter (by decide)) fun _ => .bind edits_get fun tree => ?_
  refine .bind (edits_ofExcept _) fun reading => ?_
  split
  · exact edits_pure _
  · exact .bind (edits_change fun _ _ => edited_remove) fun _ => edits_pure _

end Operations

/-! ## Nothing in the way -/

/-- Nothing is in the way of the guarded section. -/
structure IsEnterable (tree : Tree) : Prop where
  directory : tree.node? [".qgate"] = none ∨ tree.node? [".qgate"] = some .folder
  guardFile : tree.node? [".qgate", "run.lock.guard"] ≠ some .folder

/-- Nothing is in the way of the files of the lock, whatever the marker says. -/
structure IsUsable (tree : Tree) : Prop where
  directory : tree.node? [".qgate"] = none ∨ tree.node? [".qgate"] = some .folder
  guardFile : tree.node? [".qgate", "run.lock.guard"] ≠ some .folder
  draft : tree.node? [".qgate", "run.lock.tmp"] ≠ some .folder

theorem IsOpen.isEnterable {tree : Tree} (opened : IsOpen tree) : IsEnterable tree := by
  obtain ⟨isFolder, content, isFile⟩ := opened
  exact ⟨Or.inr isFolder, by simp [isFile]⟩

/-- No folder is in the place of the file that guards the section once it was touched. -/
theorem free_of_touch
    {tree changed : Tree}
    (touched : touch guardPath tree = .ok changed) :
    tree.node? [".qgate", "run.lock.guard"] ≠ some .folder := by
  unfold touch at touched
  split at touched
  · rename_i content found
    obtain ⟨-, isFile⟩ := (denotes_guardPath.find_eq_file_iff content).mp found
    simp [isFile]
  · exact denotes_guardPath.free_of_write touched

section Usable

variable {tree changed : Tree}

/-- Edits put nothing in the way. -/
theorem IsUsable.edited
    {names : List String}
    (usable : IsUsable tree)
    (edited : Tree.Edited names tree changed) :
    IsUsable changed where
  directory := by
    induction edited with
    | refl => exact usable.directory
    | made _ _ => exact Or.inr (Tree.node?_put_self _ _ (by simp))
    | written _ _ _ inductionHypothesis => rwa [Tree.node?_put_of_ne _ _ (by simp)]
    | removed _ _ inductionHypothesis => rwa [Tree.node?_without_of_ne _ (by simp)]
  guardFile := edited.ne_folder usable.guardFile
  draft := edited.ne_folder usable.draft

/-- The guarded section can be entered exactly where nothing is in its way. -/
theorem exists_enter_iff (tree : Tree) :
    (∃ entered, enter.runOn tree = (.ok (), entered)) ↔ IsEnterable tree := by
  constructor
  · rintro ⟨entered, enters⟩
    obtain ⟨_, made, makes, touches⟩ := Effect.exists_of_bind_ok enters
    rcases Effect.cases_of_change makes with ⟨-, makes⟩ | ⟨_, failed, -⟩
    · rcases Effect.cases_of_change touches with ⟨-, touches⟩ | ⟨_, failed, -⟩
      · have free := free_of_touch touches
        refine ⟨(exists_makeFolders_stateDir_iff tree).mp ⟨made, makes⟩, ?_⟩
        obtain ⟨-, rfl | rfl⟩ := cases_of_makeFolders makes
        · exact free
        · rwa [Tree.node?_put_of_ne _ _ (by simp)] at free
      · cases failed
    · cases failed
  · rintro ⟨directory, guardFile⟩
    obtain ⟨made, makes⟩ := (exists_makeFolders_stateDir_iff tree).mpr directory
    obtain ⟨isFolder, -⟩ := cases_of_makeFolders makes
    have edited : Tree.Edited [] tree made := edited_makeFolders makes
    have free := edited.ne_folder guardFile
    obtain ⟨entered, touches⟩ : ∃ entered, touch guardPath made = .ok entered := by
      unfold touch
      split
      · exact ⟨_, rfl⟩
      · exact ⟨_, denotes_guardPath.write_eq_ok isFolder free _⟩
    refine ⟨entered, ?_⟩
    rw [enter, Effect.runOn_bind, Effect.runOn_change, makes]
    dsimp only
    rw [Effect.runOn_change, touches]

/-- The guarded section can be entered. -/
theorem IsUsable.exists_enter (usable : IsUsable tree) :
    ∃ entered, enter.runOn tree = (.ok (), entered) :=
  (exists_enter_iff tree).mpr ⟨usable.directory, usable.guardFile⟩

/-- Whoever enters the guarded section edits nothing but the file that guards it. -/
theorem edited_of_enter
    {entered : Tree}
    (enters : enter.runOn tree = (.ok (), entered)) :
    Tree.Edited ["run.lock.guard"] tree entered := by
  have edits : Effect.Edits ["run.lock.guard"] enter := edits_enter (by decide)
  have edited := edits tree
  rwa [enters] at edited

/-- A marker can be written where no folder is in its place. -/
theorem IsUsable.exists_writeMarker
    (usable : IsUsable tree)
    (isFolder : tree.node? [".qgate"] = some .folder)
    (free : markerNode? tree ≠ some .folder)
    (marker : Marker) :
    ∃ changed, (writeMarker marker).runOn tree = (.ok (), changed) := by
  have drafts := denotes_draftPath.write_eq_ok isFolder usable.draft (.text marker.render)
  have drafted : (tree.put [".qgate", "run.lock.tmp"] (.file (.text marker.render))).node?
      [".qgate", "run.lock.tmp"] = some (.file (.text marker.render)) :=
    Tree.node?_put_self tree _ (by simp)
  have moves := denotes_draftPath.move_eq_ok denotes_lockPath (by decide)
    (by rwa [Tree.node?_put_of_ne _ _ (by simp)]) drafted
    (by rwa [Tree.node?_put_of_ne _ _ (by simp)])
  rw [writeMarker, Effect.runOn_bind, Effect.runOn_change, drafts]
  dsimp only
  rw [Effect.runOn_change, moves]
  exact ⟨_, rfl⟩

/-- Whoever is let in takes the lock if nothing is in the way. -/
theorem IsUsable.exists_acquire
    (usable : IsUsable tree)
    {process : Nat}
    {now : Instant}
    {window : Int}
    {force : Bool}
    (readable : markerNode? tree = none ∨
      ∃ text admission, markerNode? tree = some (.file (.text text)) ∧
        letIn now window force (.ofText text) = .ok admission) :
    ∃ guard changed, (acquire process now window force).runOn tree = (.ok guard, changed) := by
  obtain ⟨entered, enters⟩ := usable.exists_enter
  have opened := isOpen_of_enter enters
  have place := (spares_enter enters).place
  have stillUsable := usable.edited (edited_of_enter enters)
  obtain ⟨reading, admission, reads, admits, free⟩ : ∃ reading admission,
      readMarker entered = .ok reading ∧ letIn now window force reading = .ok admission ∧
        markerNode? entered ≠ some .folder := by
    rcases readable with absent | ⟨text, admission, there, admits⟩
    · rw [absent] at place
      exact ⟨_, _, readMarker_of_none opened place, rfl, by simp [place]⟩
    · rw [there] at place
      exact ⟨_, admission, readMarker_of_text opened place, admits, by simp [place]⟩
  obtain ⟨changed, writes⟩ :=
    stillUsable.exists_writeMarker opened.folder free ⟨process, now⟩
  refine ⟨.ofAdmission ⟨process, now⟩ admission, changed, ?_⟩
  rw [acquire, guarded_eq _ enters, reads]
  dsimp only
  rw [Effect.runOn_bind, Effect.runOn_ofExcept, admits]
  dsimp only
  rw [Effect.runOn_bind, writes]
  rfl

end Usable

/-- The draft is gone when the lock was taken. -/
theorem node?_draft_of_acquire
    {process : Nat}
    {now : Instant}
    {window : Int}
    {force : Bool}
    {tree held : Tree}
    {guard : Guard}
    (taken : (acquire process now window force).runOn tree = (.ok guard, held)) :
    held.node? [".qgate", "run.lock.tmp"] = none := by
  rcases guarded_cases taken with ⟨_, failed, -⟩ | ⟨reading, entered, -, -, -, taken⟩
  · cases failed
  · obtain ⟨admission, _, -, taken⟩ := Effect.exists_of_bind_ok taken
    obtain ⟨_, written, marked, taken⟩ := Effect.exists_of_bind_ok taken
    cases taken
    obtain ⟨_, _, -, moved⟩ := Effect.exists_of_bind_ok marked
    rcases Effect.cases_of_change moved with ⟨-, possible⟩ | ⟨_, failed, -⟩
    · obtain ⟨_, -, -, rfl⟩ := denotes_draftPath.eq_of_move denotes_lockPath possible
      exact Tree.node?_without_self _ (by simp)
    · cases failed

end Lock

end QualityGate
