import QualityGate.Lock.File
import QualityGate.Proofs.Effect
import QualityGate.Proofs.Lock.Marker
import QualityGate.Proofs.Tree

/-!
# What happens to the file of the lock

The operations on the lock touch three files of the state directory.  Whoever takes the lock leaves
its own marker, and a marker that was there before is stale unless the lock was forced; whoever
fails spares what was in the place of the marker; whoever releases the lock removes no marker but
its own.
-/

namespace QualityGate
namespace Lock

/-! ## The files of the lock -/

theorem denotes_lockPath : Tree.Denotes Settings.lockPath ".qgate" "run.lock" :=
  ⟨fun _ => rfl, rfl⟩

theorem denotes_guardPath : Tree.Denotes guardPath ".qgate" "run.lock.guard" :=
  ⟨fun _ => rfl, rfl⟩

theorem denotes_draftPath : Tree.Denotes draftPath ".qgate" "run.lock.tmp" :=
  ⟨fun _ => rfl, rfl⟩

/-- The file of the lock has a marker. -/
def Carries (tree : Tree) (marker : Marker) : Prop :=
  readMarker tree = .ok (.marked marker)

theorem carries_iff (tree : Tree) (marker : Marker) :
    Carries tree marker ↔
      tree.node? [".qgate"] = some .folder ∧
        ∃ text, tree.node? [".qgate", "run.lock"] = some (.file (.text text)) ∧
          Reading.ofText text = .marked marker := by
  unfold Carries readMarker
  constructor
  · intro carries
    split at carries
    · rename_i text read
      obtain ⟨isFolder, isFile⟩ := (denotes_lockPath.read_eq_ok_iff text).mp read
      exact ⟨isFolder, text, isFile, Except.ok.inj carries⟩
    · cases carries
    · cases carries
  · rintro ⟨isFolder, text, isFile, carries⟩
    rw [(denotes_lockPath.read_eq_ok_iff text).mpr ⟨isFolder, isFile⟩]
    exact congrArg Except.ok carries

/-! ## The place of the marker -/

/-- What stands in the place of the marker. -/
def markerNode? (tree : Tree) : Option Node :=
  tree.node? [".qgate", "run.lock"]

/-- The guarded section was entered before: there are the state directory and the file that guards
the section. -/
structure IsOpen (tree : Tree) : Prop where
  folder : tree.node? [".qgate"] = some .folder
  guardFile : ∃ content, tree.node? [".qgate", "run.lock.guard"] = some (.file content)

theorem IsOpen.put
    {tree : Tree}
    (opened : IsOpen tree)
    (name : String)
    (content : Content) :
    IsOpen (tree.put [".qgate", name] (.file content)) := by
  obtain ⟨isFolder, held, isFile⟩ := opened
  refine ⟨by rwa [Tree.node?_put_of_ne tree _ (by simp)], ?_⟩
  by_cases same : "run.lock.guard" = name
  · subst same
    exact ⟨content, Tree.node?_put_self tree _ (by simp)⟩
  · exact ⟨held, by rwa [Tree.node?_put_of_ne tree _ (by simpa)]⟩

theorem IsOpen.without
    {tree : Tree}
    (opened : IsOpen tree)
    {name : String}
    (elsewhere : "run.lock.guard" ≠ name) :
    IsOpen (tree.without [".qgate", name]) := by
  obtain ⟨isFolder, held, isFile⟩ := opened
  exact ⟨by rwa [Tree.node?_without_of_ne tree (by simp)],
    held, by rwa [Tree.node?_without_of_ne tree (by simpa)]⟩

/-- A change of the files spares the place of the marker and what is needed to enter the section. -/
structure Spares (tree changed : Tree) : Prop where
  place : markerNode? changed = markerNode? tree
  folder : tree.node? [".qgate"] = some .folder → changed.node? [".qgate"] = some .folder
  opened : IsOpen tree → IsOpen changed

theorem Spares.refl (tree : Tree) : Spares tree tree :=
  ⟨rfl, id, id⟩

theorem Spares.trans
    {tree between changed : Tree}
    (first : Spares tree between)
    (second : Spares between changed) :
    Spares tree changed :=
  ⟨second.place.trans first.place, second.folder ∘ first.folder, second.opened ∘ first.opened⟩

/-- A change of the files keeps the markers. -/
def Keeps (tree changed : Tree) : Prop :=
  ∀ marker, Carries tree marker → Carries changed marker

theorem Keeps.refl (tree : Tree) : Keeps tree tree :=
  fun _ carries => carries

/-- A change that spares the place of the marker keeps the marker. -/
theorem Spares.keeps
    {tree changed : Tree}
    (spares : Spares tree changed) :
    Keeps tree changed := by
  intro marker carries
  rw [carries_iff] at carries ⊢
  obtain ⟨isFolder, text, isFile, isMarker⟩ := carries
  exact ⟨spares.folder isFolder, text, spares.place.trans isFile, isMarker⟩

theorem spares_write
    {path name : String}
    (denotes : Tree.Denotes path ".qgate" name)
    (elsewhere : "run.lock" ≠ name)
    {tree changed : Tree}
    {content : Content}
    (written : tree.write path content = .ok changed) :
    Spares tree changed := by
  obtain ⟨isFolder, rfl⟩ := denotes.eq_of_write written
  exact ⟨Tree.node?_put_of_ne tree _ (by simpa),
    fun _ => by rwa [Tree.node?_put_of_ne tree _ (by simp)],
    fun opened => opened.put name content⟩

/-- A change spares the marker if it does so where it is possible. -/
theorem spares_change
    {operation : Tree → Except FileFault Tree}
    {explain : FileFault → Failure}
    {tree changed : Tree}
    {result : Except Failure Unit}
    (run : (Effect.change operation explain).runOn tree = (result, changed))
    (spares : ∀ possible, operation tree = .ok possible → Spares tree possible) :
    Spares tree changed := by
  rcases Effect.cases_of_change run with ⟨-, succeeded⟩ | ⟨_, -, rfl⟩
  · exact spares _ succeeded
  · exact Spares.refl changed

/-! ## The guarded section -/

/-- The state directory is made unless something is there. -/
theorem makeFolders_stateDir (tree : Tree) :
    tree.makeFolders Settings.stateDir =
      match tree.node? [".qgate"] with
      | none => .ok (tree.put [".qgate"] .folder)
      | some .folder => .ok tree
      | some (.file _) => .error .exists := by
  have route : tree.route? Settings.stateDir = some [.name ".qgate"] := rfl
  have named : [Component.name ".qgate"].filterMap Component.name? = [".qgate"] := rfl
  rw [Tree.makeFolders, route]
  dsimp only
  rw [named, Tree.makeFrom, List.nil_append]
  rfl

/-- The state directory can be made exactly where no file is in its place. -/
theorem exists_makeFolders_stateDir_iff (tree : Tree) :
    (∃ made, tree.makeFolders Settings.stateDir = .ok made) ↔
      tree.node? [".qgate"] = none ∨ tree.node? [".qgate"] = some .folder := by
  rw [makeFolders_stateDir]
  split <;> simp [*]

/-- The state directory is there after it was made, and nothing else has changed. -/
theorem cases_of_makeFolders
    {tree changed : Tree}
    (made : tree.makeFolders Settings.stateDir = .ok changed) :
    changed.node? [".qgate"] = some .folder ∧
      (changed = tree ∨ changed = tree.put [".qgate"] .folder) := by
  rw [makeFolders_stateDir] at made
  split at made
  · cases made
    exact ⟨Tree.node?_put_self tree _ (by simp), Or.inr rfl⟩
  · rename_i isFolder
    cases made
    exact ⟨isFolder, Or.inl rfl⟩
  · cases made

theorem spares_makeFolders
    {tree changed : Tree}
    (made : tree.makeFolders Settings.stateDir = .ok changed) :
    Spares tree changed := by
  obtain ⟨isFolder, rfl | rfl⟩ := cases_of_makeFolders made
  · exact Spares.refl changed
  · refine ⟨Tree.node?_put_of_ne tree _ (by simp), fun _ => isFolder, fun opened => ?_⟩
    obtain ⟨-, content, isFile⟩ := opened
    exact ⟨isFolder, content, by rwa [Tree.node?_put_of_ne tree _ (by simp)]⟩

theorem spares_touch
    {tree changed : Tree}
    (touched : touch guardPath tree = .ok changed) :
    Spares tree changed := by
  unfold touch at touched
  split at touched
  · cases touched
    exact Spares.refl tree
  · exact spares_write denotes_guardPath (by decide) touched

/-- The section can be entered after the file that guards it was made. -/
theorem isOpen_of_touch
    {tree changed : Tree}
    (touched : touch guardPath tree = .ok changed) :
    IsOpen changed := by
  unfold touch at touched
  split at touched
  · rename_i content found
    cases touched
    obtain ⟨isFolder, isFile⟩ := (denotes_guardPath.find_eq_file_iff content).mp found
    exact ⟨isFolder, content, isFile⟩
  · obtain ⟨isFolder, rfl⟩ := denotes_guardPath.eq_of_write touched
    exact ⟨by rwa [Tree.node?_put_of_ne tree _ (by simp)],
      _, Tree.node?_put_self tree _ (by simp)⟩

/-- Entering the guarded section spares the marker, also if it fails. -/
theorem spares_enter
    {tree changed : Tree}
    {result : Except Failure Unit}
    (entered : enter.runOn tree = (result, changed)) :
    Spares tree changed := by
  unfold enter at entered
  rw [Effect.runOn_bind] at entered
  split at entered
  · rename_i made
    exact (spares_change made fun _ => spares_makeFolders).trans
      (spares_change entered fun _ => spares_touch)
  · rename_i made
    cases entered
    exact spares_change made fun _ => spares_makeFolders

theorem isOpen_of_enter
    {tree changed : Tree}
    (entered : enter.runOn tree = (.ok (), changed)) :
    IsOpen changed := by
  obtain ⟨_, between, -, touched⟩ := Effect.exists_of_bind_ok entered
  rcases Effect.cases_of_change touched with ⟨-, succeeded⟩ | ⟨_, failed, -⟩
  · exact isOpen_of_touch succeeded
  · cases failed

/-- Whoever enters the section after others changes nothing. -/
theorem IsOpen.enter_eq
    {tree : Tree}
    (opened : IsOpen tree) :
    enter.runOn tree = (.ok (), tree) := by
  obtain ⟨isFolder, content, isFile⟩ := opened
  have made : tree.makeFolders Settings.stateDir = .ok tree := by
    rw [makeFolders_stateDir, isFolder]
  have touched : touch guardPath tree = .ok tree := by
    rw [touch, (denotes_guardPath.find_eq_file_iff content).mpr ⟨isFolder, isFile⟩]
  rw [enter, Effect.runOn_bind, Effect.runOn_change, made]
  dsimp only
  rw [Effect.runOn_change, touched]

/-- A guarded step goes on in the section with what is read there. -/
theorem guarded_eq
    {α : Type}
    (next : Reading → Effect α)
    {tree entered : Tree}
    (inside : enter.runOn tree = (.ok (), entered)) :
    (do
      enter
      let reading ← Effect.ofExcept (readMarker (← get))
      next reading).runOn tree =
        match readMarker entered with
        | .ok reading => (next reading).runOn entered
        | .error failure => (.error failure, entered) := by
  rw [Effect.runOn_bind, inside]
  dsimp only
  rw [Effect.runOn_bind, Effect.runOn_get]
  dsimp only
  rw [Effect.runOn_bind, Effect.runOn_ofExcept]
  cases readMarker entered <;> rfl

/-- A guarded step fails and spares the marker, or it goes on in the section with what the file of
the lock has. -/
theorem guarded_cases
    {α : Type}
    {next : Reading → Effect α}
    {tree changed : Tree}
    {result : Except Failure α}
    (run : (do
      enter
      let reading ← Effect.ofExcept (readMarker (← get))
      next reading).runOn tree = (result, changed)) :
    (∃ failure, result = .error failure ∧ Spares tree changed) ∨
      ∃ reading entered, Spares tree entered ∧ IsOpen entered ∧
        readMarker entered = .ok reading ∧
        (next reading).runOn entered = (result, changed) := by
  generalize inside : enter.runOn tree = outcome
  obtain ⟨_ | _, entered⟩ := outcome
  · rw [Effect.runOn_bind, inside] at run
    cases run
    exact Or.inl ⟨_, rfl, spares_enter inside⟩
  · rw [guarded_eq next inside] at run
    cases read : readMarker entered with
    | ok reading =>
      rw [read] at run
      exact Or.inr ⟨reading, entered, spares_enter inside, isOpen_of_enter inside, read, run⟩
    | error failure =>
      rw [read] at run
      cases run
      exact Or.inl ⟨failure, rfl, spares_enter inside⟩

/-! ## Writing -/

/-- A marker is written in its place, or its place is spared. -/
theorem writeMarker_cases
    {marker : Marker}
    {tree changed : Tree}
    {result : Except Failure Unit}
    (run : (writeMarker marker).runOn tree = (result, changed)) :
    (result = .ok () ∧ markerNode? changed = some (.file (.text marker.render)) ∧
        changed.node? [".qgate"] = some .folder ∧ (IsOpen tree → IsOpen changed)) ∨
      ∃ failure, result = .error failure ∧ Spares tree changed := by
  unfold writeMarker at run
  rw [Effect.runOn_bind] at run
  split at run
  · rename_i between drafted
    rcases Effect.cases_of_change drafted with ⟨-, written⟩ | ⟨_, failed, -⟩
    · have spared := spares_write denotes_draftPath (by decide) written
      rcases Effect.cases_of_change run with ⟨rfl, moved⟩ | ⟨fault, rfl, rfl⟩
      · left
        obtain ⟨content, isFolder, isDraft, rfl⟩ :=
          denotes_draftPath.eq_of_move denotes_lockPath moved
        have content_eq : content = .text marker.render := by
          rw [(denotes_draftPath.eq_of_write written).2,
            Tree.node?_put_self _ _ (by simp)] at isDraft
          cases isDraft
          rfl
        refine ⟨rfl, ?_, ?_, fun opened => ((spared.opened opened).put _ _).without (by decide)⟩
        · rw [markerNode?, Tree.node?_without_of_ne _ (by simp),
            Tree.node?_put_self _ _ (by simp), content_eq]
        · rwa [Tree.node?_without_of_ne _ (by simp), Tree.node?_put_of_ne _ _ (by simp)]
      · exact Or.inr ⟨_, rfl, spared⟩
    · cases failed
  · rename_i failure _ drafted
    cases run
    exact Or.inr ⟨failure, rfl,
      spares_change drafted fun _ => spares_write denotes_draftPath (by decide)⟩

/-- A marker that was written is in its file. -/
theorem carries_of_writeMarker
    {marker : Marker}
    (proper : marker.IsProper)
    {tree changed : Tree}
    (written : (writeMarker marker).runOn tree = (.ok (), changed)) :
    Carries changed marker := by
  rcases writeMarker_cases written with ⟨-, there, isFolder, -⟩ | ⟨_, failed, -⟩
  · exact (carries_iff changed marker).mpr ⟨isFolder, _, there, Marker.ofText_render proper⟩
  · cases failed

/-! ## Taking and releasing the lock -/

/-- Whoever takes the lock, with force or without, leaves its own marker; whoever does not get it
spares the marker that was there. -/
theorem acquire_cases
    {process : Nat}
    {now : Instant}
    {window : Int}
    {force : Bool}
    {tree changed : Tree}
    {result : Except Failure Guard}
    (run : (acquire process now window force).runOn tree = (result, changed)) :
    (∃ guard, result = .ok guard ∧ guard.marker = ⟨process, now⟩ ∧ guard.isHeld = true ∧
        markerNode? changed = some (.file (.text guard.marker.render)) ∧ IsOpen changed) ∨
      ∃ failure, result = .error failure ∧ Spares tree changed := by
  rcases guarded_cases run with failed | ⟨reading, entered, spared, opened, -, run⟩
  · exact Or.inr failed
  · rw [Effect.runOn_bind, Effect.runOn_ofExcept] at run
    cases admitted : letIn now window force reading with
    | error failure =>
      rw [admitted] at run
      cases run
      exact Or.inr ⟨failure, rfl, spared⟩
    | ok admission =>
      rw [admitted] at run
      dsimp only at run
      rw [Effect.runOn_bind] at run
      split at run
      · rename_i written
        cases run
        rcases writeMarker_cases written with ⟨-, there, -, opens⟩ | ⟨_, failed, -⟩
        · exact Or.inl ⟨_, rfl, rfl, rfl, there, opens opened⟩
        · cases failed
      · rename_i failure _ written
        cases run
        rcases writeMarker_cases written with ⟨succeeded, -⟩ | ⟨_, -, spares⟩
        · cases succeeded
        · exact Or.inr ⟨failure, rfl, spared.trans spares⟩

/-- A run that is let in without force finds no live marker. -/
theorem isStale_of_letIn
    {now : Instant}
    {window : Int}
    {marker : Marker}
    {admission : Admission}
    (admitted : letIn now window false (.marked marker) = .ok admission) :
    marker.isStale now window = true := by
  cases stale : marker.isStale now window with
  | true => rfl
  | false =>
    have refused := letIn_eq_error_iff.mpr ⟨marker, rfl, stale, rfl, rfl⟩
    rw [refused] at admitted
    cases admitted

/-- Whoever takes the lock leaves its own marker, and a marker that was there is stale. -/
theorem acquire_ok
    {process : Nat}
    {now : Instant}
    {window : Int}
    {tree changed : Tree}
    {guard : Guard}
    (taken : (acquire process now window false).runOn tree = (.ok guard, changed)) :
    guard.marker = ⟨process, now⟩ ∧
      (∀ marker, Carries tree marker → marker.isStale now window = true) ∧
      ((Marker.mk process now).IsProper → Carries changed ⟨process, now⟩) := by
  rcases guarded_cases taken with ⟨failure, failed, -⟩ | ⟨reading, entered, spared, -, read, taken⟩
  · cases failed
  · obtain ⟨admission, _, admitted, taken⟩ := Effect.exists_of_bind_ok taken
    rw [Effect.runOn_ofExcept] at admitted
    obtain ⟨letIn_eq, rfl⟩ := Prod.mk.inj admitted
    obtain ⟨_, written, marked, taken⟩ := Effect.exists_of_bind_ok taken
    cases taken
    refine ⟨rfl, ?_, fun proper => carries_of_writeMarker proper marked⟩
    intro marker carries
    have there := spared.keeps marker carries
    rw [Carries, read] at there
    cases there
    exact isStale_of_letIn letIn_eq

/-- Whoever does not get the lock leaves the marker that was there. -/
theorem keeps_of_acquire_error
    {process : Nat}
    {now : Instant}
    {window : Int}
    {force : Bool}
    {tree changed : Tree}
    {failure : Failure}
    (refused : (acquire process now window force).runOn tree = (.error failure, changed)) :
    Keeps tree changed := by
  rcases acquire_cases refused with ⟨_, taken, -⟩ | ⟨_, -, spared⟩
  · cases taken
  · exact spared.keeps

/-- Whoever releases the lock removes no marker but its own, also if the release fails. -/
theorem carries_release
    (guard : Guard)
    {tree : Tree}
    {marker : Marker}
    (carries : Carries tree marker)
    (other : marker ≠ guard.marker) :
    Carries ((release guard).runOn tree).2 marker := by
  unfold release
  split
  · generalize run : Effect.runOn _ tree = outcome
    obtain ⟨result, changed⟩ := outcome
    rcases guarded_cases run with ⟨_, -, spared⟩ | ⟨reading, entered, spared, -, read, run⟩
    · exact spared.keeps marker carries
    · have there := spared.keeps marker carries
      have reading_eq : reading = .marked marker := by
        rw [Carries, read] at there
        exact Except.ok.inj there
      have foreign : guard.owns reading = false := by
        rw [reading_eq, Guard.owns, beq_eq_false_iff_ne]
        intro equal
        exact other (Reading.marked.inj equal)
      rw [foreign] at run
      cases run
      exact there
  · exact carries

end Lock
end QualityGate
