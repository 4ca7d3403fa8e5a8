import QualityGate.Proofs.Lock.Exclusion
import QualityGate.Proofs.StateDirectory

/-!
# Recovery

A process may die at any point, between two actions or between two of the changes of files that an
action consists of.  A marker is written into a draft, which is moved into its place once it is
complete.  So the place of the marker is always empty or has a complete marker, which was left in the
past and becomes stale: the lock can be taken again when the window of staleness has passed.
-/

namespace QualityGate

/-- Of two nodes that are put in one place the second one stays. -/
theorem Tree.put_put
    (tree : Tree)
    (names : List String)
    (first second : Node) :
    (tree.put names first).put names second = tree.put names second := by
  simp [put, List.filter_append, List.filter_filter]

namespace Lock

/-! ## Changes of files, one by one -/

/-- One change of files. -/
abbrev Change := Tree → Except FileFault Tree

/-- Make changes one after the other, up to the first one that is not possible: whether all of them
were possible, and the files. -/
def attempt : List Change → Tree → Bool × Tree
  | [], tree => (true, tree)
  | change :: rest, tree =>
    match change tree with
    | .ok changed => attempt rest changed
    | .error _ => (false, tree)

/-- The changes by which the guarded section is entered. -/
def enterChanges : List Change :=
  [(Tree.makeFolders · Settings.stateDir), touch guardPath]

/-- The changes by which a text is written into the draft: the draft is made or emptied, and the text
is written piece by piece. -/
def draftChanges (pieces : List String) : List Change :=
  (Tree.write · draftPath (.text "")) :: pieces.map fun piece => (Tree.append · draftPath piece)

/-- The changes of an action in the guarded section before its last one.  The last one moves a draft
or removes a marker, and with it the action is complete. -/
def Action.drafts (pieces : List String) : Action → Reading → List Change
  | .acquire _ now window force, reading =>
    match letIn now window force reading with
    | .ok _ => draftChanges pieces
    | .error _ => []
  | _, _ => []

/-- The files when an action was cut short after a number of changes, because its process has died
or a disk has failed. -/
def Action.cutAfter (action : Action) (pieces : List String) (count : Nat) (tree : Tree) : Tree :=
  match attempt (enterChanges.take count) tree with
  | (false, stopped) => stopped
  | (true, entered) =>
    match readMarker entered with
    | .ok reading =>
      (attempt ((action.drafts pieces reading).take (count - enterChanges.length)) entered).2
    | .error _ => entered

/-! ## What happens before a marker is in its place -/

/-- The change spares the place of the marker, and it edits nothing but the files of the lock. -/
structure Prepares (tree changed : Tree) : Prop where
  spares : Spares tree changed
  edited : Tree.Edited fileNames tree changed

theorem Prepares.refl (tree : Tree) : Prepares tree tree :=
  ⟨Spares.refl tree, .refl⟩

theorem Prepares.trans
    {tree between changed : Tree}
    (first : Prepares tree between)
    (second : Prepares between changed) :
    Prepares tree changed :=
  ⟨first.spares.trans second.spares, first.edited.trans second.edited⟩

theorem prepares_write
    {tree changed : Tree}
    {content : Content}
    (written : tree.write draftPath content = .ok changed) :
    Prepares tree changed :=
  ⟨spares_write denotes_draftPath (by decide) written, .of_write denotes_draftPath (by decide) written⟩

theorem prepares_of_mem_enterChanges
    {change : Change}
    (member : change ∈ enterChanges)
    {tree changed : Tree}
    (possible : change tree = .ok changed) :
    Prepares tree changed := by
  simp only [enterChanges, List.mem_cons, List.not_mem_nil, or_false] at member
  rcases member with rfl | rfl
  · exact ⟨spares_makeFolders possible, edited_makeFolders possible⟩
  · exact ⟨spares_touch possible, edited_touch (by decide) possible⟩

theorem prepares_of_mem_draftChanges
    {pieces : List String}
    {change : Change}
    (member : change ∈ draftChanges pieces)
    {tree changed : Tree}
    (possible : change tree = .ok changed) :
    Prepares tree changed := by
  rcases List.mem_cons.mp member with rfl | appends
  · exact prepares_write possible
  · obtain ⟨piece, -, rfl⟩ := List.mem_map.mp appends
    dsimp only [Tree.append] at possible
    split at possible <;> exact prepares_write possible

/-- Changes prepare a marker if each of them does. -/
theorem prepares_attempt
    {changes : List Change}
    (each : ∀ change ∈ changes, ∀ tree changed, change tree = .ok changed → Prepares tree changed)
    (tree : Tree) :
    Prepares tree (attempt changes tree).2 := by
  induction changes generalizing tree with
  | nil => exact Prepares.refl tree
  | cons change rest inductionHypothesis =>
    obtain ⟨first, following⟩ := List.forall_mem_cons.mp each
    rw [attempt]
    split
    · rename_i changed possible
      exact (first tree changed possible).trans (inductionHypothesis following changed)
    · exact Prepares.refl tree

theorem prepares_of_mem_drafts
    {action : Action}
    {pieces : List String}
    {reading : Reading}
    {change : Change}
    (member : change ∈ action.drafts pieces reading)
    {tree changed : Tree}
    (possible : change tree = .ok changed) :
    Prepares tree changed := by
  unfold Action.drafts at member
  split at member
  · split at member
    · exact prepares_of_mem_draftChanges member possible
    · cases member
  · cases member

/-- Wherever an action is cut short, it has spared the place of the marker. -/
theorem Action.prepares_cutAfter
    (action : Action)
    (pieces : List String)
    (count : Nat)
    (tree : Tree) :
    Prepares tree (action.cutAfter pieces count tree) := by
  have entering : Prepares tree (attempt (enterChanges.take count) tree).2 :=
    prepares_attempt (fun change member tree changed =>
      prepares_of_mem_enterChanges (List.mem_of_mem_take member)) tree
  unfold cutAfter
  split
  · rename_i stopped run
    rwa [run] at entering
  · rename_i entered run
    rw [run] at entering
    split
    · refine entering.trans (prepares_attempt (fun change member tree changed => ?_) entered)
      exact prepares_of_mem_drafts (List.mem_of_mem_take member)
    · exact entering

/-! ## An action that is not cut short -/

/-- The section is entered by its changes. -/
theorem attempt_enterChanges (tree : Tree) :
    (attempt enterChanges tree).2 = (enter.runOn tree).2 ∧
      ((attempt enterChanges tree).1 = true ↔ (enter.runOn tree).1 = .ok ()) := by
  rw [enter, Effect.runOn_bind, Effect.runOn_change]
  cases makes : tree.makeFolders Settings.stateDir with
  | error fault => simp [attempt, enterChanges, makes]
  | ok made =>
    dsimp only
    rw [Effect.runOn_change]
    cases touches : touch guardPath made with
    | error fault => simp [attempt, enterChanges, makes, touches]
    | ok entered => simp [attempt, enterChanges, makes, touches]

/-- Pieces are appended to what is in the draft. -/
theorem attempt_append
    {tree : Tree}
    (isFolder : tree.node? [".qgate"] = some .folder)
    (pieces : List String)
    (before : String) :
    attempt (pieces.map fun piece => (Tree.append · draftPath piece))
        (tree.put [".qgate", "run.lock.tmp"] (.file (.text before))) =
      (true, tree.put [".qgate", "run.lock.tmp"] (.file (.text (before ++ String.join pieces)))) := by
  induction pieces generalizing before with
  | nil => simp [attempt]
  | cons piece rest inductionHypothesis =>
    have stillFolder : (tree.put [".qgate", "run.lock.tmp"] (.file (.text before))).node?
        [".qgate"] = some .folder := by
      rwa [Tree.node?_put_of_ne _ _ (by simp)]
    have there : (tree.put [".qgate", "run.lock.tmp"] (.file (.text before))).node?
        [".qgate", "run.lock.tmp"] = some (.file (.text before)) :=
      Tree.node?_put_self _ _ (by simp)
    have appends : (tree.put [".qgate", "run.lock.tmp"] (.file (.text before))).append draftPath
        piece = .ok (tree.put [".qgate", "run.lock.tmp"] (.file (.text (before ++ piece)))) := by
      rw [Tree.append, (denotes_draftPath.find_eq_file_iff _).mpr ⟨stillFolder, there⟩]
      dsimp only
      rw [denotes_draftPath.write_eq_ok stillFolder (by rw [there]; simp), Tree.put_put]
      rfl
    rw [List.map_cons, attempt, appends]
    dsimp only
    rw [inductionHypothesis, String.join_cons, String.append_assoc]

/-- A text that is written into the draft piece by piece is written as a whole. -/
theorem attempt_draftChanges (pieces : List String) (tree : Tree) :
    attempt (draftChanges pieces) tree =
      match tree.write draftPath (.text (String.join pieces)) with
      | .ok changed => (true, changed)
      | .error _ => (false, tree) := by
  rw [draftChanges, attempt]
  cases makes : tree.write draftPath (.text "") with
  | ok made =>
    obtain ⟨names, resolved, asks, around, free, -⟩ := (Tree.write_eq_ok_iff ..).mp makes
    obtain ⟨isFolder, rfl⟩ := (denotes_draftPath.resolve_eq_ok_iff names).mp resolved
    rw [(denotes_draftPath.eq_of_write makes).2, denotes_draftPath.write_eq_ok isFolder free]
    dsimp only
    rw [attempt_append isFolder, String.empty_append]
  | error fault =>
    cases writes : tree.write draftPath (.text (String.join pieces)) with
    | error other => rfl
    | ok changed =>
      -- whether a file can be written does not depend on its content
      obtain ⟨names, resolved, asks, around, free, -⟩ := (Tree.write_eq_ok_iff ..).mp writes
      rw [(Tree.write_eq_ok_iff ..).mpr ⟨names, resolved, asks, around, free, rfl⟩] at makes
      cases makes

/-- An acquisition that is cut short after all changes but the last one. -/
theorem cutAfter_acquire
    (process : Nat)
    (now : Instant)
    (window : Int)
    (force : Bool)
    (pieces : List String)
    (tree : Tree) :
    (Action.acquire process now window force).cutAfter pieces (pieces.length + 3) tree =
      match attempt enterChanges tree with
      | (false, stopped) => stopped
      | (true, entered) =>
        match readMarker entered with
        | .error _ => entered
        | .ok reading =>
          match letIn now window force reading with
          | .error _ => entered
          | .ok _ => (attempt (draftChanges pieces) entered).2 := by
  have entering : enterChanges.take (pieces.length + 3) = enterChanges :=
    List.take_of_length_le (by simp [enterChanges])
  have drafting : (draftChanges pieces).take (pieces.length + 3 - enterChanges.length) =
      draftChanges pieces :=
    List.take_of_length_le (by simp [enterChanges, draftChanges])
  unfold Action.cutAfter
  rw [entering]
  rcases attempt enterChanges tree with ⟨possible, entered⟩
  cases possible with
  | false => rfl
  | true =>
    dsimp only
    cases readMarker entered with
    | error failure => rfl
    | ok reading =>
      dsimp only [Action.drafts]
      cases letIn now window force reading with
      | error failure => simp [attempt]
      | ok admission => rw [drafting]

/-- A process that has made all changes but the last one either moves its draft, and has the lock, or
fails and changes nothing else. -/
def CompletesAcquire
    (process : Nat)
    (now : Instant)
    (window : Int)
    (force : Bool)
    (pieces : List String)
    (tree : Tree) : Prop :=
  let cut := (Action.acquire process now window force).cutAfter pieces (pieces.length + 3) tree
  match (acquire process now window force).runOn tree with
  | (.ok _, changed) => cut.move draftPath Settings.lockPath = .ok changed
  | (.error _, changed) => changed = cut

/-- An acquisition consists of the changes after which it can be cut short, and its last one. -/
theorem completesAcquire
    (process : Nat)
    (now : Instant)
    (window : Int)
    (force : Bool)
    {pieces : List String}
    (whole : String.join pieces = (Marker.mk process now).render)
    (tree : Tree) :
    CompletesAcquire process now window force pieces tree := by
  obtain ⟨files, succeeds⟩ := attempt_enterChanges tree
  unfold CompletesAcquire
  rw [cutAfter_acquire, acquire, Effect.runOn_bind]
  generalize attempt enterChanges tree = attempted at files succeeds ⊢
  generalize enter.runOn tree = outcome at files succeeds ⊢
  obtain ⟨possible, entered⟩ := attempted
  obtain ⟨result, after⟩ := outcome
  obtain rfl : entered = after := files
  cases result with
  | error failure =>
    have impossible : possible = false := by simpa using succeeds
    rw [impossible]
  | ok _ =>
    have isPossible : possible = true := by simpa using succeeds
    rw [isPossible]
    dsimp only
    rw [Effect.runOn_bind, Effect.runOn_get]
    dsimp only
    rw [Effect.runOn_bind, Effect.runOn_ofExcept]
    cases readMarker entered with
    | error failure => rfl
    | ok reading =>
      dsimp only
      rw [Effect.runOn_bind, Effect.runOn_ofExcept]
      cases letIn now window force reading with
      | error failure => rfl
      | ok admission =>
        dsimp only
        rw [Effect.runOn_bind, writeMarker, Effect.runOn_bind, Effect.runOn_change,
          attempt_draftChanges, whole]
        cases entered.write draftPath (.text (Marker.mk process now).render) with
        | error fault => rfl
        | ok drafted =>
          dsimp only
          rw [Effect.runOn_change]
          cases drafted.move draftPath Settings.lockPath with
          | error fault => rfl
          | ok moved => rfl

/-! ## The life of a lock -/

/-- What happens to a lock: an action is done, or it is cut short after a number of changes.  A
process that dies behind the last change of an action has done it, and does nothing any more. -/
inductive Incident where
  | done (action : Action)
  | cut (action : Action) (pieces : List String) (count : Nat)

/-- The history of a lock, and the clock as it was read last in the guarded section. -/
structure Life where
  history : History
  clock : Instant

namespace Action

/-- The clock as it was read last after an action. -/
def clockAfter (clock : Instant) : Action → Instant
  | .acquire _ now _ _ => now
  | _ => clock

/-- The number of a process has 32 bits, and the clock does not go back. -/
def IsTimely (clock : Instant) : Action → Prop
  | .acquire process now _ _ =>
    process < Word.bound 32 ∧ now.IsShown ∧ 0 ≤ now.nanosecondsSince clock
  | _ => True

instance (clock : Instant) (action : Action) : Decidable (action.IsTimely clock) :=
  match action with
  | .acquire _ _ _ _ => inferInstanceAs (Decidable (_ ∧ _))
  | .release _ => inferInstanceAs (Decidable True)
  | .clear => inferInstanceAs (Decidable True)

theorem IsTimely.isAdmissible
    {clock : Instant}
    {action : Action}
    (timely : action.IsTimely clock) :
    action.IsAdmissible := by
  cases action with
  | acquire process now window force => exact ⟨timely.1, timely.2.1.proper⟩
  | release place => trivial
  | clear => trivial

end Action

/-- The action of an incident. -/
def Incident.action : Incident → Action
  | .done action => action
  | .cut action _ _ => action

/-- Incidents that may happen one after the other. -/
def InOrder : Instant → List Incident → Prop
  | _, [] => True
  | clock, incident :: rest =>
    incident.action.IsTimely clock ∧ InOrder (incident.action.clockAfter clock) rest

instance decidableInOrder : (clock : Instant) → (incidents : List Incident) →
    Decidable (InOrder clock incidents)
  | _, [] => inferInstanceAs (Decidable True)
  | clock, incident :: rest =>
    have := decidableInOrder (incident.action.clockAfter clock) rest
    inferInstanceAs (Decidable (_ ∧ _))

namespace Life

/-- The files of the project. -/
def tree (life : Life) : Tree :=
  life.history.tree

/-- All guards that were taken, in their order. -/
def guards (life : Life) : List Guard :=
  life.history.guards

/-- No guard was taken, and there is no marker. -/
structure IsInitial (life : Life) : Prop where
  history : life.history.IsInitial
  clock : life.clock.IsShown

/-- The life of a lock after an incident. -/
def after (life : Life) (incident : Incident) : Life where
  history :=
    match incident with
    | .done action => life.history.after action
    | .cut action pieces count =>
      { life.history with tree := action.cutAfter pieces count life.tree }
  clock := incident.action.clockAfter life.clock

/-- The life of a lock after a run of incidents. -/
def run (life : Life) (incidents : List Incident) : Life :=
  incidents.foldl after life

/-- The marker belongs to the newest guard, and all guards were taken in the past. -/
structure IsTraced (life : Life) : Prop where
  history : life.history.IsTraced
  clockShown : life.clock.IsShown
  shown : ∀ guard ∈ life.guards, guard.marker.since.IsShown
  past : ∀ guard ∈ life.guards, 0 ≤ life.clock.nanosecondsSince guard.marker.since

end Life

/-! ## The invariant -/

/-- Whatever spares the place of the marker preserves who it belongs to. -/
theorem History.IsTraced.spared
    {history : History}
    (traced : history.IsTraced)
    {changed : Tree}
    (spares : Spares history.tree changed) :
    ({ history with tree := changed } : History).IsTraced where
  proper := traced.proper
  opened := fun taken => spares.opened (traced.opened taken)
  marked := by
    rw [spares.place]
    exact traced.marked

/-- An action leaves the markers of the guards, and an acquisition may add its own. -/
theorem History.IsTraced.mem_after
    {history : History}
    (traced : history.IsTraced)
    {action : Action}
    {guard : Guard}
    (member : guard ∈ (history.after action).guards) :
    (∃ old ∈ history.guards, old.marker = guard.marker) ∨
      ∃ process now window force, action = .acquire process now window force ∧
        guard.marker = ⟨process, now⟩ := by
  cases action with
  | acquire process now window force =>
    rw [History.after] at member
    generalize run : (Lock.acquire process now window force).runOn history.tree = outcome at member
    obtain ⟨result, changed⟩ := outcome
    rcases acquire_cases run with ⟨taken, rfl, marker_eq, -⟩ | ⟨_, rfl, -⟩
    · rcases List.mem_append.mp member with old | new
      · exact Or.inl ⟨guard, old, rfl⟩
      · rw [List.mem_singleton.mp new]
        exact Or.inr ⟨process, now, window, force, rfl, marker_eq⟩
    · exact Or.inl ⟨guard, member, rfl⟩
  | release place =>
    left
    cases atPlace : history.guards[place]? with
    | none =>
      rw [History.after, atPlace] at member
      exact ⟨guard, member, rfl⟩
    | some released =>
      have guards_eq : (history.after (.release place)).guards = history.guards ∨
          (history.after (.release place)).guards =
            history.guards.set place released.afterRelease := by
        cases held : released.isHeld with
        | false => exact Or.inl (congrArg History.guards (after_release_of_released atPlace held))
        | true =>
          rcases traced.after_release_eq atPlace held with ⟨-, left⟩ | ⟨-, left⟩
          · exact Or.inr (congrArg History.guards left)
          · exact Or.inr (congrArg History.guards left)
      rcases guards_eq with same | replaced
      · rw [same] at member
        exact ⟨guard, member, rfl⟩
      · rw [replaced] at member
        rcases List.mem_or_eq_of_mem_set member with old | rfl
        · exact ⟨guard, old, rfl⟩
        · exact ⟨released, List.mem_of_getElem? atPlace, rfl⟩
  | clear => exact Or.inl ⟨guard, member, rfl⟩

namespace Life

variable {life : Life} {incident : Incident}

theorem IsInitial.isTraced (initial : life.IsInitial) : life.IsTraced where
  history := initial.history.isTraced
  clockShown := initial.clock
  shown := by simp [guards, initial.history.guards]
  past := by simp [guards, initial.history.guards]

/-- The clock goes on. -/
theorem clockAfter_spec
    {clock : Instant}
    (shown : clock.IsShown)
    {action : Action}
    (timely : action.IsTimely clock) :
    (action.clockAfter clock).IsShown ∧
      0 ≤ (action.clockAfter clock).nanosecondsSince clock := by
  cases action with
  | acquire process now window force => exact timely.2
  | release place => exact ⟨shown, (Instant.nanosecondsSince_self clock).ge⟩
  | clear => exact ⟨shown, (Instant.nanosecondsSince_self clock).ge⟩

/-- Every incident preserves the invariant. -/
theorem IsTraced.after
    (traced : life.IsTraced)
    (timely : incident.action.IsTimely life.clock) :
    (life.after incident).IsTraced := by
  obtain ⟨clockShown, later⟩ := clockAfter_spec traced.clockShown timely
  have stillPast : ∀ guard ∈ life.guards, guard.marker.since.IsShown ∧
      0 ≤ (incident.action.clockAfter life.clock).nanosecondsSince guard.marker.since := by
    intro guard member
    have shown := traced.shown guard member
    have past := traced.past guard member
    have sum := clockShown.nanosecondsSince_add traced.clockShown shown
    exact ⟨shown, by omega⟩
  cases incident with
  | cut action pieces count =>
    have spares := (action.prepares_cutAfter pieces count life.tree).spares
    exact ⟨traced.history.spared spares, clockShown, fun guard member => (stillPast guard member).1,
      fun guard member => (stillPast guard member).2⟩
  | done action =>
    have known : ∀ guard ∈ (life.after (.done action)).guards, guard.marker.since.IsShown ∧
        0 ≤ (action.clockAfter life.clock).nanosecondsSince guard.marker.since := by
      intro guard member
      rcases traced.history.mem_after member with ⟨old, isOld, same⟩ | ⟨_, now, _, _, rfl, taken⟩
      · rw [← same]
        exact stillPast old isOld
      · rw [taken]
        exact ⟨clockShown, by rw [Action.clockAfter, Instant.nanosecondsSince_self]⟩
    exact ⟨traced.history.after timely.isAdmissible, clockShown,
      fun guard member => (known guard member).1, fun guard member => (known guard member).2⟩

/-- Every run preserves the invariant. -/
theorem IsTraced.run
    (traced : life.IsTraced)
    {incidents : List Incident}
    (inOrder : InOrder life.clock incidents) :
    (life.run incidents).IsTraced := by
  induction incidents generalizing life with
  | nil => exact traced
  | cons incident rest inductionHypothesis =>
    obtain ⟨timely, following⟩ := inOrder
    exact inductionHypothesis (traced.after timely) following

/-- An incident edits nothing but the files of the lock. -/
theorem edited_after (life : Life) (incident : Incident) :
    Tree.Edited fileNames life.tree (life.after incident).tree := by
  cases incident with
  | cut action pieces count => exact (action.prepares_cutAfter pieces count life.tree).edited
  | done action =>
    unfold tree Life.after
    cases action with
    | acquire process now window force =>
      have edited := edits_acquire process now window force life.history.tree
      dsimp only [History.after]
      split
      · rename_i run
        rwa [run] at edited
      · rename_i run
        rwa [run] at edited
    | release place =>
      dsimp only [History.after]
      cases life.history.guards[place]? with
      | none => exact .refl
      | some guard =>
        have edited := edits_release guard life.history.tree
        dsimp only
        split
        · rename_i run
          rwa [run] at edited
        · rename_i run
          rwa [run] at edited
    | clear => exact edits_clear life.history.tree

theorem edited_run (life : Life) (incidents : List Incident) :
    Tree.Edited fileNames life.tree (life.run incidents).tree := by
  induction incidents generalizing life with
  | nil => exact .refl
  | cons incident rest inductionHypothesis =>
    exact (life.edited_after incident).trans (inductionHypothesis (life.after incident))

/-! ## Recovery -/

/-- The lock survives whatever has happened to it. -/
structure IsRecoverable (life : Life) (start : Tree) : Prop where
  /-- There is no marker, or a complete one that was left by an acquisition in the past. -/
  marked : markerNode? life.tree = none ∨
    ∃ guard ∈ life.guards, life.history.Shows guard.marker ∧
      readMarker life.tree = .ok (.marked guard.marker) ∧
      0 ≤ life.clock.nanosecondsSince guard.marker.since
  /-- If nothing was in the way of its files at the start, the lock can be taken more than the window
  after it was taken last. -/
  heals : IsUsable start → ∀ (process : Nat) (now : Instant) (window : Int),
    (∀ newest, life.guards.getLast? = some newest →
      window * 1000000000 < now.nanosecondsSince newest.marker.since) →
        ∃ guard changed, (acquire process now window false).runOn life.tree = (.ok guard, changed)
  /-- An acquisition that fails leaves what is in the place of the marker. -/
  refused : ∀ (process : Nat) (now : Instant) (window : Int) (force : Bool) (failure : Failure)
    (changed : Tree), (acquire process now window force).runOn life.tree = (.error failure, changed) →
      markerNode? changed = markerNode? life.tree
  /-- So does an action that is cut short, wherever that happens. -/
  interrupted : ∀ (action : Action) (pieces : List String) (count : Nat),
    markerNode? (action.cutAfter pieces count life.tree) = markerNode? life.tree
  /-- An acquisition that is not cut short makes the same changes, and then moves its draft. -/
  completed : ∀ (process : Nat) (now : Instant) (window : Int) (force : Bool)
    (pieces : List String), String.join pieces = (Marker.mk process now).render →
      CompletesAcquire process now window force pieces life.tree

/-- What stands in the place of the marker is the marker of the newest guard. -/
theorem IsTraced.newest
    (traced : life.IsTraced) :
    markerNode? life.tree = none ∨
      ∃ newest, life.guards.getLast? = some newest ∧ life.history.Shows newest.marker := by
  cases there : markerNode? life.tree with
  | none => exact Or.inl rfl
  | some node =>
    obtain ⟨newest, isNewest, -, rfl⟩ := traced.history.marked node there
    exact Or.inr ⟨newest, isNewest, there⟩

/-- Whoever comes when the newest marker is stale is let in. -/
theorem IsTraced.exists_acquire
    (traced : life.IsTraced)
    (usable : IsUsable life.tree)
    {process : Nat}
    {now : Instant}
    {window : Int}
    (stale : ∀ newest, life.guards.getLast? = some newest →
      window * 1000000000 < now.nanosecondsSince newest.marker.since) :
    ∃ guard changed, (acquire process now window false).runOn life.tree = (.ok guard, changed) := by
  apply usable.exists_acquire
  rcases traced.newest with absent | ⟨newest, isNewest, shows⟩
  · exact Or.inl absent
  · have proper := traced.history.proper newest (List.mem_of_getLast? isNewest)
    have isStale : newest.marker.isStale now window = true :=
      (Marker.isStale_eq_true_iff ..).mpr (stale newest isNewest)
    obtain ⟨admission, admits⟩ :
        ∃ admission, letIn now window false (.ofText newest.marker.render) = .ok admission := by
      rw [Marker.ofText_render proper, letIn, if_pos isStale]
      exact ⟨_, rfl⟩
    exact Or.inr ⟨_, admission, shows, admits⟩

theorem IsTraced.isRecoverable
    (traced : life.IsTraced)
    {start : Tree}
    (edited : Tree.Edited fileNames start life.tree) :
    life.IsRecoverable start where
  marked := by
    rcases traced.newest with absent | ⟨newest, isNewest, shows⟩
    · exact Or.inl absent
    · have member := List.mem_of_getLast? isNewest
      exact Or.inr ⟨newest, member, shows, (traced.history.carries_iff member).mpr shows,
        traced.past newest member⟩
  heals := by
    intro usable process now window stale
    exact traced.exists_acquire (usable.edited edited) stale
  refused := by
    intro process now window force failure changed run
    rcases acquire_cases run with ⟨_, taken, -⟩ | ⟨_, -, spares⟩
    · cases taken
    · exact spares.place
  interrupted := by
    intro action pieces count
    exact (action.prepares_cutAfter pieces count life.tree).spares.place
  completed := by
    intro process now window force pieces whole
    exact completesAcquire process now window force whole life.tree

end Life

/-- Whoever takes, releases and clears the lock, in any order and wherever a process dies: the lock
recovers. -/
theorem run_recovers
    {start : Life}
    (initial : start.IsInitial)
    {incidents : List Incident}
    (inOrder : InOrder start.clock incidents) :
    (start.run incidents).IsRecoverable start.tree :=
  (initial.isTraced.run inOrder).isRecoverable (start.edited_run incidents)

/-- The first process dies with the lock, the second one in the middle of its draft.  The third one
is refused at the end of the window and takes the lock a second later; the fourth one dies while it
clears the lock. -/
theorem run_recovers_after_deaths :
    let start : Life := ⟨⟨Tree.empty "/project", []⟩, ⟨⟨2026, 5, 4⟩, 43200, 0⟩⟩
    let incidents : List Incident :=
      [ .done (.acquire 1 ⟨⟨2026, 5, 4⟩, 43200, 0⟩ standardWindow false),
        .cut (.acquire 2 ⟨⟨2026, 5, 4⟩, 43210, 0⟩ standardWindow true) ["\x7b\"pid\"", ":2"] 4,
        .done (.acquire 3 ⟨⟨2026, 5, 4⟩, 43500, 0⟩ standardWindow false),
        .done (.acquire 3 ⟨⟨2026, 5, 4⟩, 43501, 0⟩ standardWindow false),
        .cut .clear [] 2 ]
    let life := start.run incidents
    InOrder start.clock incidents ∧
      IsUsable start.tree ∧
      life.guards.map Guard.marker =
        [⟨1, ⟨⟨2026, 5, 4⟩, 43200, 0⟩⟩, ⟨3, ⟨⟨2026, 5, 4⟩, 43501, 0⟩⟩] ∧
      (start.run (incidents.take 2)).tree.read draftPath = .ok "\x7b\"pid\"" ∧
      life.history.Shows ⟨3, ⟨⟨2026, 5, 4⟩, 43501, 0⟩⟩ ∧
      life.IsRecoverable start.tree := by
  intro start incidents life
  have inOrder : InOrder start.clock incidents := by decide
  have initial : start.IsInitial := ⟨⟨rfl, rfl⟩, by decide⟩
  have usable : IsUsable start.tree := ⟨Or.inl rfl, by decide, by decide⟩
  have markers : life.guards.map Guard.marker =
      [⟨1, ⟨⟨2026, 5, 4⟩, 43200, 0⟩⟩, ⟨3, ⟨⟨2026, 5, 4⟩, 43501, 0⟩⟩] := by
    decide +kernel
  have shows : life.history.Shows ⟨3, ⟨⟨2026, 5, 4⟩, 43501, 0⟩⟩ := by
    unfold History.Shows
    decide +kernel
  have drafted : (start.run (incidents.take 2)).tree.read draftPath = .ok "\x7b\"pid\"" := by
    decide +kernel
  exact ⟨inOrder, usable, markers, drafted, shows, run_recovers initial inOrder⟩

end Lock
end QualityGate
