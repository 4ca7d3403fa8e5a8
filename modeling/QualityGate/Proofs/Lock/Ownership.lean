import QualityGate.Proofs.Lock.File
import Mathlib.Data.List.Nodup

/-!
# Who owns the marker

Any number of processes take the lock, with force or without, release it once or more often, and
clear it, in any order.  The file of the lock has the marker of the guard that was taken last, and
that guard was not released; or there is no such file.  So a guard removes no marker but its own,
and no marker is left when all guards have been released.
-/

namespace QualityGate
namespace Lock

/-! ## Clearing and releasing -/

/-- What is read in the place of the marker: its text, if there is one. -/
theorem readMarker_of_text
    {tree : Tree}
    {text : String}
    (opened : IsOpen tree)
    (there : markerNode? tree = some (.file (.text text))) :
    readMarker tree = .ok (.ofText text) := by
  rw [readMarker, (denotes_lockPath.read_eq_ok_iff text).mpr ⟨opened.folder, there⟩]

theorem readMarker_of_none
    {tree : Tree}
    (opened : IsOpen tree)
    (absent : markerNode? tree = none) :
    readMarker tree = .ok .absent := by
  rw [readMarker, denotes_lockPath.read_eq_missing opened.folder absent]

/-- Whoever clears the lock removes the marker or spares it. -/
theorem clear_cases
    {tree changed : Tree}
    {result : Except Failure (Option Marker)}
    (run : clear.runOn tree = (result, changed)) :
    Spares tree changed ∨ markerNode? changed = none ∧ IsOpen changed := by
  unfold clear at run
  rcases guarded_cases run with ⟨_, -, spared⟩ | ⟨reading, entered, spared, opened, -, run⟩
  · exact Or.inl spared
  · split at run
    · cases run
      exact Or.inl spared
    · rw [Effect.runOn_bind] at run
      split at run
      · rename_i cleared
        cases run
        rcases Effect.cases_of_change cleared with ⟨-, removed⟩ | ⟨_, failed, -⟩
        · rw [(denotes_lockPath.eq_of_remove removed).2]
          exact Or.inr ⟨Tree.node?_without_self entered (by simp), opened.without (by decide)⟩
        · cases failed
      · rename_i cleared
        cases run
        rcases Effect.cases_of_change cleared with ⟨succeeded, -⟩ | ⟨_, -, rfl⟩
        · cases succeeded
        · exact Or.inl spared

/-- Whoever releases the lock removes the marker if it is its own, and changes nothing otherwise. -/
theorem release_eq
    {tree : Tree}
    {guard : Guard}
    {reading : Reading}
    (opened : IsOpen tree)
    (read : readMarker tree = .ok reading)
    (held : guard.isHeld = true) :
    (Carries tree guard.marker ∧
        (release guard).runOn tree =
          (.ok guard.afterRelease, tree.without [".qgate", "run.lock"])) ∨
      (¬Carries tree guard.marker ∧
        (release guard).runOn tree = (.ok guard.afterRelease, tree)) := by
  have owns_iff : guard.owns reading = true ↔ Carries tree guard.marker := by
    rw [Carries, read, Guard.owns, beq_iff_eq, Except.ok.injEq]
  unfold release
  rw [if_pos held, guarded_eq _ opened.enter_eq, read]
  dsimp only
  by_cases carries : Carries tree guard.marker
  · obtain ⟨isFolder, _, isFile, -⟩ := (carries_iff tree guard.marker).mp carries
    refine Or.inl ⟨carries, ?_⟩
    rw [if_pos (owns_iff.mpr carries), Effect.runOn_bind, Effect.runOn_change,
      denotes_lockPath.remove_eq_ok isFolder isFile]
    rfl
  · refine Or.inr ⟨carries, ?_⟩
    rw [if_neg (mt owns_iff.mp carries)]
    rfl

/-! ## Histories -/

/-- The files of a project, and all guards that were ever taken, in the order in which they were
taken. -/
structure History where
  tree : Tree
  guards : List Guard

/-- What a process does in one step.  Guards are named by their places in the history; a guard that
is dropped is released. -/
inductive Action where
  | acquire (process : Nat) (now : Instant) (window : Int) (force : Bool)
  | release (place : Nat)
  | clear

/-- The number of a process has 32 bits, and its clock shows a proper instant.  Clocks may go
back. -/
def Action.IsAdmissible : Action → Prop
  | .acquire process now _ _ => (Marker.mk process now).IsProper
  | _ => True

instance (action : Action) : Decidable action.IsAdmissible :=
  match action with
  | .acquire process now _ _ => inferInstanceAs (Decidable (Marker.mk process now).IsProper)
  | .release _ => inferInstanceAs (Decidable True)
  | .clear => inferInstanceAs (Decidable True)

namespace History

/-- No guard was taken, and nothing stands in the place of the marker. -/
structure IsInitial (history : History) : Prop where
  guards : history.guards = []
  absent : markerNode? history.tree = none

/-- The history after an action.  A guard counts as released even if its release failed. -/
def after (history : History) : Action → History
  | .acquire process now window force =>
    match (Lock.acquire process now window force).runOn history.tree with
    | (.ok guard, tree) => ⟨tree, history.guards ++ [guard]⟩
    | (.error _, tree) => { history with tree := tree }
  | .release place =>
    match history.guards[place]? with
    | none => history
    | some guard =>
      match (Lock.release guard).runOn history.tree with
      | (.ok left, tree) => ⟨tree, history.guards.set place left⟩
      | (.error _, tree) => ⟨tree, history.guards.set place guard.afterRelease⟩
  | .clear => { history with tree := (Lock.clear.runOn history.tree).2 }

/-- The history after a run of actions. -/
def run (history : History) (actions : List Action) : History :=
  actions.foldl after history

/-- What stands in the place of the marker is the marker of the newest guard, which was not
released. -/
structure IsTraced (history : History) : Prop where
  proper : ∀ guard ∈ history.guards, guard.marker.IsProper
  opened : history.guards ≠ [] → IsOpen history.tree
  marked : ∀ node, markerNode? history.tree = some node →
    ∃ guard, history.guards.getLast? = some guard ∧ guard.isHeld = true ∧
      node = .file (.text guard.marker.render)

section Steps

variable {history : History}

theorem IsInitial.isTraced (initial : history.IsInitial) : history.IsTraced where
  proper := by simp [initial.guards]
  opened := fun taken => absurd initial.guards taken
  marked := by simp [initial.absent]

/-- The marker can be read where there are guards. -/
theorem IsTraced.readMarker
    (traced : history.IsTraced)
    (taken : history.guards ≠ []) :
    (markerNode? history.tree = none ∧ Lock.readMarker history.tree = .ok .absent) ∨
      ∃ guard, history.guards.getLast? = some guard ∧ guard.isHeld = true ∧
        markerNode? history.tree = some (.file (.text guard.marker.render)) ∧
        Lock.readMarker history.tree = .ok (.marked guard.marker) := by
  have opened := traced.opened taken
  cases there : markerNode? history.tree with
  | none => exact Or.inl ⟨rfl, readMarker_of_none opened there⟩
  | some node =>
    obtain ⟨guard, newest, held, rfl⟩ := traced.marked node there
    have proper := traced.proper guard (List.mem_of_getLast? newest)
    refine Or.inr ⟨guard, newest, held, rfl, ?_⟩
    rw [readMarker_of_text opened there, Marker.ofText_render proper]

/-- A guard that was not released removes the marker if it is its own, and changes nothing
otherwise. -/
theorem IsTraced.after_release_eq
    (traced : history.IsTraced)
    {place : Nat}
    {guard : Guard}
    (atPlace : history.guards[place]? = some guard)
    (held : guard.isHeld = true) :
    (Carries history.tree guard.marker ∧
        history.after (.release place) =
          ⟨history.tree.without [".qgate", "run.lock"],
            history.guards.set place guard.afterRelease⟩) ∨
      (¬Carries history.tree guard.marker ∧
        history.after (.release place) =
          ⟨history.tree, history.guards.set place guard.afterRelease⟩) := by
  have taken := List.ne_nil_of_mem (List.mem_of_getElem? atPlace)
  obtain ⟨reading, read⟩ : ∃ reading, Lock.readMarker history.tree = .ok reading := by
    rcases traced.readMarker taken with ⟨-, read⟩ | ⟨guard, -, -, -, read⟩
    · exact ⟨_, read⟩
    · exact ⟨_, read⟩
  rw [after, atPlace]
  dsimp only
  rcases release_eq (traced.opened taken) read held with ⟨carries, run⟩ | ⟨foreign, run⟩
  · exact Or.inl ⟨carries, by rw [run]⟩
  · exact Or.inr ⟨foreign, by rw [run]⟩

/-- A guard that was released changes nothing. -/
theorem after_release_of_released
    {place : Nat}
    {guard : Guard}
    (atPlace : history.guards[place]? = some guard)
    (released : guard.isHeld = false) :
    history.after (.release place) = history := by
  have run : (Lock.release guard).runOn history.tree = (.ok guard, history.tree) := by
    rw [Lock.release, if_neg (by simp [released])]
    rfl
  obtain ⟨inside, guard_eq⟩ := List.getElem?_eq_some_iff.mp atPlace
  have same : history.guards.set place guard = history.guards := by
    rw [← guard_eq, List.set_getElem_self]
  rw [after, atPlace]
  dsimp only
  rw [run]
  dsimp only
  rw [same]

/-- A guard that was not released takes its marker with it, and it leaves the marker of the newest
guard if it is not that guard. -/
theorem IsTraced.released
    (traced : history.IsTraced)
    {place : Nat}
    {guard : Guard}
    (atPlace : history.guards[place]? = some guard)
    (held : guard.isHeld = true) :
    (history.after (.release place)).IsTraced := by
  have taken := List.ne_nil_of_mem (List.mem_of_getElem? atPlace)
  have opened := traced.opened taken
  have proper : ∀ other ∈ history.guards.set place guard.afterRelease, other.marker.IsProper := by
    intro other member
    rcases List.mem_or_eq_of_mem_set member with old | rfl
    · exact traced.proper other old
    · exact traced.proper guard (List.mem_of_getElem? atPlace)
  rcases traced.after_release_eq atPlace held with
    ⟨-, left⟩ | ⟨foreign, left⟩
  · rw [left]
    refine ⟨proper, fun _ => opened.without (by decide), fun node there => ?_⟩
    rw [markerNode?, Tree.node?_without_self _ (by simp)] at there
    cases there
  · rw [left]
    refine ⟨proper, fun _ => opened, fun node there => ?_⟩
    rcases traced.readMarker taken with ⟨absent, -⟩ | ⟨newest, isNewest, newestHeld, node_eq, read⟩
    · rw [absent] at there
      cases there
    · rw [node_eq] at there
      cases there
      refine ⟨newest, ?_, newestHeld, rfl⟩
      rw [List.getLast?_eq_getElem?] at isNewest ⊢
      have other : place ≠ history.guards.length - 1 := by
        rintro rfl
        rw [atPlace] at isNewest
        cases isNewest
        exact foreign read
      rwa [List.length_set, List.getElem?_set_ne other]

/-- Every action preserves the invariant. -/
theorem IsTraced.after
    (traced : history.IsTraced)
    {action : Action}
    (admissible : action.IsAdmissible) :
    (history.after action).IsTraced := by
  cases action with
  | acquire process now window force =>
    rw [History.after]
    generalize run : (Lock.acquire process now window force).runOn history.tree = outcome
    obtain ⟨result, changed⟩ := outcome
    rcases acquire_cases run with ⟨guard, rfl, marker_eq, held, there, opened⟩ | ⟨_, rfl, spares⟩
    · refine ⟨?_, fun _ => opened, fun node isNode => ?_⟩
      · intro other member
        rcases List.mem_append.mp member with old | new
        · exact traced.proper other old
        · rw [List.mem_singleton.mp new, marker_eq]
          exact admissible
      · rw [there] at isNode
        exact ⟨guard, List.getLast?_concat, held, (Option.some.inj isNode).symm⟩
    · refine ⟨traced.proper, fun taken => spares.opened (traced.opened taken), ?_⟩
      rw [spares.place]
      exact traced.marked
  | release place =>
    cases atPlace : history.guards[place]? with
    | none =>
      rw [History.after, atPlace]
      exact traced
    | some guard =>
      cases held : guard.isHeld with
      | false =>
        rw [after_release_of_released atPlace held]
        exact traced
      | true => exact traced.released atPlace held
  | clear =>
    rw [History.after]
    generalize run : Lock.clear.runOn history.tree = outcome
    rcases clear_cases run with spares | ⟨absent, opened⟩
    · refine ⟨traced.proper, fun taken => spares.opened (traced.opened taken), ?_⟩
      rw [spares.place]
      exact traced.marked
    · refine ⟨traced.proper, fun _ => opened, fun node there => ?_⟩
      rw [absent] at there
      cases there

/-- Every run preserves the invariant. -/
theorem IsTraced.run
    (traced : history.IsTraced)
    {actions : List Action}
    (admissible : ∀ action ∈ actions, action.IsAdmissible) :
    (history.run actions).IsTraced := by
  induction actions generalizing history with
  | nil => exact traced
  | cons action rest inductionHypothesis =>
    obtain ⟨first, following⟩ := List.forall_mem_cons.mp admissible
    exact inductionHypothesis (traced.after first) following

end Steps

/-! ## Ownership -/

/-- A marker stands in its place, in writing. -/
def Shows (history : History) (marker : Marker) : Prop :=
  markerNode? history.tree = some (.file (.text marker.render))

/-- The marker belongs to one guard, and only that guard removes it. -/
structure IsOwned (history : History) : Prop where
  /-- What stands in the place of the marker is the marker of a guard that was not released, and of
  no other guard. -/
  marked : markerNode? history.tree ≠ none →
    ∃ (place : Nat) (guard : Guard), history.guards[place]? = some guard ∧ guard.isHeld = true ∧
      history.Shows guard.marker ∧
      ∀ (otherPlace : Nat) (other : Guard), history.guards[otherPlace]? = some other →
        history.Shows other.marker → otherPlace = place
  /-- A guard that is released removes the file of the lock, and nothing else, if the file has its
  marker; otherwise it removes nothing. -/
  released : ∀ (place : Nat) (guard : Guard), history.guards[place]? = some guard →
    guard.isHeld = true →
      (history.after (.release place)).guards =
          history.guards.set place guard.afterRelease ∧
        (history.Shows guard.marker →
          markerNode? (history.after (.release place)).tree = none ∧
            ∀ names, names ≠ [".qgate", "run.lock"] →
              (history.after (.release place)).tree.node? names =
                history.tree.node? names) ∧
        (¬history.Shows guard.marker →
          (history.after (.release place)).tree = history.tree)
  /-- A guard that was released already changes nothing. -/
  repeated : ∀ (place : Nat) (guard : Guard), history.guards[place]? = some guard →
    guard.isHeld = false → history.after (.release place) = history
  /-- No marker is left behind. -/
  cleared : (∀ guard ∈ history.guards, guard.isHeld = false) → markerNode? history.tree = none

section Ownership

variable {history : History}

/-- Two guards whose markers are both in the file have the same marker. -/
theorem IsTraced.marker_eq
    (traced : history.IsTraced)
    {guard other : Guard}
    (member : guard ∈ history.guards)
    (otherMember : other ∈ history.guards)
    (shows : history.Shows guard.marker)
    (otherShows : history.Shows other.marker) :
    other.marker = guard.marker := by
  have written : other.marker.render = guard.marker.render := by
    have same := otherShows.symm.trans shows
    simpa using same
  have read := Marker.ofText_render (traced.proper other otherMember)
  rw [written, Marker.ofText_render (traced.proper guard member)] at read
  exact (Reading.marked.inj read).symm

/-- A marker is read where it stands. -/
theorem IsTraced.carries_iff
    (traced : history.IsTraced)
    {guard : Guard}
    (member : guard ∈ history.guards) :
    Carries history.tree guard.marker ↔ history.Shows guard.marker := by
  have taken := List.ne_nil_of_mem member
  constructor
  · intro carries
    rcases traced.readMarker taken with ⟨-, read⟩ | ⟨newest, -, -, there, read⟩
    · rw [Carries, read] at carries
      cases carries
    · rw [Carries, read] at carries
      have same : newest.marker = guard.marker := by simpa using carries
      rwa [same] at there
  · intro shows
    rw [Carries, readMarker_of_text (traced.opened taken) shows,
      Marker.ofText_render (traced.proper guard member)]

/-- Where no two guards have the same marker, the marker belongs to one of them. -/
theorem IsTraced.isOwned
    (traced : history.IsTraced)
    (distinct : (history.guards.map Guard.marker).Nodup) :
    history.IsOwned where
  marked := by
    intro there
    obtain ⟨node, node_eq⟩ := Option.ne_none_iff_exists'.mp there
    obtain ⟨guard, newest, held, rfl⟩ := traced.marked node node_eq
    rw [List.getLast?_eq_getElem?] at newest
    refine ⟨_, guard, newest, held, node_eq, fun otherPlace other atPlace shows => ?_⟩
    have same := traced.marker_eq (List.mem_of_getElem? newest) (List.mem_of_getElem? atPlace)
      node_eq shows
    have inside := (List.getElem?_eq_some_iff.mp atPlace).1
    refine (List.getElem?_inj (by rwa [List.length_map]) distinct).mp ?_
    rw [List.getElem?_map, List.getElem?_map, atPlace, newest, Option.map_some, Option.map_some,
      same]
  released := by
    intro place guard atPlace held
    have carries_iff := traced.carries_iff (List.mem_of_getElem? atPlace)
    rcases traced.after_release_eq atPlace held with
      ⟨carries, left⟩ | ⟨foreign, left⟩
    · rw [left]
      refine ⟨rfl, fun _ => ⟨Tree.node?_without_self _ (by simp), fun names elsewhere =>
        Tree.node?_without_of_ne _ elsewhere⟩, fun absent => absurd (carries_iff.mp carries) absent⟩
    · rw [left]
      exact ⟨rfl, fun shows => absurd (carries_iff.mpr shows) foreign, fun _ => rfl⟩
  repeated := fun _ _ atPlace released => after_release_of_released atPlace released
  cleared := by
    intro released
    rw [Option.eq_none_iff_forall_ne_some]
    intro node there
    obtain ⟨guard, newest, held, -⟩ := traced.marked node there
    rw [released guard (List.mem_of_getLast? newest)] at held
    cases held

end Ownership

end History

/-- Whoever takes, releases and clears the lock, in any order: as long as no two guards were taken
by the same process at the same reading of the clock, the marker belongs to one guard, and only that
guard removes it. -/
theorem run_owns
    {start : History}
    (initial : start.IsInitial)
    {actions : List Action}
    (admissible : ∀ action ∈ actions, action.IsAdmissible)
    (distinct : ((start.run actions).guards.map Guard.marker).Nodup) :
    (start.run actions).IsOwned :=
  (initial.isTraced.run admissible).isOwned distinct

/-- The second process is refused and then forces its way in, with a clock that has gone back; the
release of the first guard leaves the marker of the second one. -/
theorem run_owns_after_force :
    let start : History := ⟨Tree.empty "/project", []⟩
    let actions : List Action :=
      [ .acquire 1 ⟨⟨2026, 5, 4⟩, 43200, 0⟩ standardWindow false,
        .acquire 2 ⟨⟨2026, 5, 4⟩, 43201, 0⟩ standardWindow false,
        .acquire 2 ⟨⟨2026, 5, 4⟩, 43199, 0⟩ standardWindow true, .release 0, .release 0 ]
    let history := start.run actions
    (∀ action ∈ actions, action.IsAdmissible) ∧
      history.guards.map (fun guard => (guard.marker, guard.isHeld)) =
        [(⟨1, ⟨⟨2026, 5, 4⟩, 43200, 0⟩⟩, false), (⟨2, ⟨⟨2026, 5, 4⟩, 43199, 0⟩⟩, true)] ∧
      history.Shows ⟨2, ⟨⟨2026, 5, 4⟩, 43199, 0⟩⟩ ∧
      history.IsOwned := by
  intro start actions history
  have admissible : ∀ action ∈ actions, action.IsAdmissible := by decide
  have reached :
      (history.guards.map fun guard => (guard.marker, guard.isHeld), markerNode? history.tree) =
        ([ (⟨1, ⟨⟨2026, 5, 4⟩, 43200, 0⟩⟩, false), (⟨2, ⟨⟨2026, 5, 4⟩, 43199, 0⟩⟩, true) ],
          some (.file (.text (Marker.mk 2 ⟨⟨2026, 5, 4⟩, 43199, 0⟩).render))) := by
    decide +kernel
  obtain ⟨guards, shows⟩ := Prod.mk.inj reached
  have distinct : (history.guards.map Guard.marker).Nodup := by
    have markers := congrArg (List.map Prod.fst) guards
    rw [List.map_map] at markers
    rw [show Guard.marker = Prod.fst ∘ fun guard => (guard.marker, guard.isHeld) from rfl, markers]
    decide
  exact ⟨admissible, guards, shows, run_owns ⟨rfl, rfl⟩ admissible distinct⟩

end Lock
end QualityGate
