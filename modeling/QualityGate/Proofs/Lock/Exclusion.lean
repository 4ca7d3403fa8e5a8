import QualityGate.Proofs.Lock.File
import Mathlib.Data.List.Pairwise

/-!
# Mutual exclusion

Any number of processes take the lock, release it, look at it and crash, in any order.  A guard that
was not released has its marker in the file of the lock, or that marker is stale.  So two guards
that were not released are further apart than the window of staleness, and at no time are two of
them no older than the window.
-/

namespace QualityGate

/-! ## Time -/

namespace Instant

/-- An instant as a clock shows it: a proper one outside of leap seconds. -/
structure IsShown (instant : Instant) : Prop where
  proper : instant.IsProper
  plain : instant.nanosecond < 1000000000

instance (instant : Instant) : Decidable instant.IsShown :=
  decidable_of_iff (instant.IsProper ∧ instant.nanosecond < 1000000000)
    ⟨fun holds => ⟨holds.1, holds.2⟩, fun shown => ⟨shown.proper, shown.plain⟩⟩

theorem nanosecondsSince_self (instant : Instant) : instant.nanosecondsSince instant = 0 := by
  simp [nanosecondsSince, leapSecondsSince]

/-- Clocks do not show the leap seconds that have passed. -/
theorem IsShown.leapSecondsSince
    {last first : Instant}
    (lastShown : last.IsShown)
    (firstShown : first.IsShown) :
    last.leapSecondsSince first = 0 := by
  unfold Instant.leapSecondsSince
  rw [if_neg (Nat.not_le_of_lt lastShown.plain), if_neg (Nat.not_le_of_lt firstShown.plain)]
  split <;> rfl

/-- The time between two readings of a clock is the sum of the times to and from a third one.  This
fails for leap seconds: they are counted within a day, but not from one day to the next. -/
theorem IsShown.nanosecondsSince_add
    {last middle first : Instant}
    (lastShown : last.IsShown)
    (middleShown : middle.IsShown)
    (firstShown : first.IsShown) :
    last.nanosecondsSince middle + middle.nanosecondsSince first = last.nanosecondsSince first := by
  simp only [nanosecondsSince, lastShown.leapSecondsSince middleShown,
    middleShown.leapSecondsSince firstShown, lastShown.leapSecondsSince firstShown]
  omega

end Instant

namespace Lock

theorem Marker.isStale_eq_true_iff (marker : Marker) (now : Instant) (window : Int) :
    marker.isStale now window = true ↔
      window * 1000000000 < now.nanosecondsSince marker.since := by
  rw [isStale, decide_eq_true_eq]

/-- A stale marker stays stale. -/
theorem Marker.isStale_later
    {marker : Marker}
    {clock now : Instant}
    {window : Int}
    (stale : marker.isStale clock window = true)
    (later : 0 ≤ now.nanosecondsSince clock)
    (sinceShown : marker.since.IsShown)
    (clockShown : clock.IsShown)
    (nowShown : now.IsShown) :
    marker.isStale now window = true := by
  rw [isStale_eq_true_iff] at stale ⊢
  have sum := nowShown.nanosecondsSince_add clockShown sinceShown
  omega

/-! ## Runs of several processes -/

/-- A guard that was not released; the process that has it may have crashed. -/
structure Holding where
  guard : Guard
  crashed : Bool

/-- The files of a project, the clock as it was read last in the guarded section, the guards that
were not released, the newest one first, and what processes were told about the lock. -/
structure World where
  tree : Tree
  clock : Instant
  holdings : List Holding
  answers : List (Except Failure Status)

/-- What a process does in one step.  Guards are named by their places among those that were not
released. -/
inductive Event where
  | acquire (process : Nat) (now : Instant)
  | release (place : Nat)
  | status (now : Instant)
  | crash (place : Nat)

namespace Event

/-- The clock as it was read last after an event. -/
def clockAfter (clock : Instant) : Event → Instant
  | .acquire _ now => now
  | _ => clock

/-- The number of a process has 32 bits, and the clock does not go back in the guarded section.
Who looks at the lock is not in that section and may have read the clock at any time. -/
def Admissible (clock : Instant) : Event → Prop
  | .acquire process now =>
    process < Word.bound 32 ∧ now.IsShown ∧ 0 ≤ now.nanosecondsSince clock
  | _ => True

instance (clock : Instant) (event : Event) : Decidable (event.Admissible clock) :=
  match event with
  | .acquire _ _ => inferInstanceAs (Decidable (_ ∧ _))
  | .status _ => inferInstanceAs (Decidable True)
  | .release _ => inferInstanceAs (Decidable True)
  | .crash _ => inferInstanceAs (Decidable True)

end Event

/-- Events that may happen one after the other. -/
def Timely : Instant → List Event → Prop
  | _, [] => True
  | clock, event :: rest => event.Admissible clock ∧ Timely (event.clockAfter clock) rest

instance decidableTimely : (clock : Instant) → (events : List Event) →
    Decidable (Timely clock events)
  | _, [] => inferInstanceAs (Decidable True)
  | clock, event :: rest =>
    have := decidableTimely (event.clockAfter clock) rest
    inferInstanceAs (Decidable (_ ∧ _))

namespace World

/-- Nobody has the lock, though its file may have anything in it. -/
structure IsInitial (world : World) : Prop where
  holdings : world.holdings = []
  clock : world.clock.IsShown

/-- The guards that were not released, the newest one first. -/
def guards (world : World) : List Guard :=
  world.holdings.map Holding.guard

/-- The world after an event.  A guard counts as released even if its marker could not be removed,
and a process that has crashed never releases its guard. -/
def after (window : Int) (world : World) : Event → World
  | .acquire process now =>
    match (Lock.acquire process now window false).runOn world.tree with
    | (.ok guard, tree) =>
      { world with tree := tree, clock := now, holdings := ⟨guard, false⟩ :: world.holdings }
    | (.error _, tree) => { world with tree := tree, clock := now }
  | .release place =>
    match world.holdings[place]? with
    | some ⟨guard, false⟩ =>
      { world with
        tree := ((Lock.release guard).runOn world.tree).2
        holdings := world.holdings.eraseIdx place }
    | _ => world
  | .status now =>
    { world with answers := Lock.status world.tree now window :: world.answers }
  | .crash place =>
    { world with
      holdings := world.holdings.modify place fun holding => { holding with crashed := true } }

/-- The world after a run of events. -/
def run (window : Int) (world : World) (events : List Event) : World :=
  events.foldl (after window) world

end World

/-! ## The invariant -/

/-- The later guard was taken more than the window after the earlier one. -/
def Apart (window : Int) (later earlier : Guard) : Prop :=
  window * 1000000000 < later.marker.since.nanosecondsSince earlier.marker.since

/-- Guards were taken in the past, further apart than the window, and each has its marker in the
file of the lock or is stale. -/
structure Excluded (window : Int) (tree : Tree) (clock : Instant) (guards : List Guard) : Prop where
  clockShown : clock.IsShown
  shown : ∀ guard ∈ guards, guard.marker.since.IsShown
  past : ∀ guard ∈ guards, 0 ≤ clock.nanosecondsSince guard.marker.since
  apart : guards.Pairwise (Apart window)
  marked : ∀ guard ∈ guards,
    Carries tree guard.marker ∨ guard.marker.isStale clock window = true

section Steps

variable {window : Int} {tree changed : Tree} {clock now : Instant} {guards : List Guard}

/-- Time may pass, and the files may change as long as they keep the markers. -/
theorem Excluded.later
    (excluded : Excluded window tree clock guards)
    (nowShown : now.IsShown)
    (later : 0 ≤ now.nanosecondsSince clock)
    (keeps : Keeps tree changed) :
    Excluded window changed now guards where
  clockShown := nowShown
  shown := excluded.shown
  past := by
    intro guard member
    have before := excluded.past guard member
    have sum := nowShown.nanosecondsSince_add excluded.clockShown (excluded.shown guard member)
    omega
  apart := excluded.apart
  marked := by
    intro guard member
    rcases excluded.marked guard member with carries | stale
    · exact Or.inl (keeps guard.marker carries)
    · exact Or.inr (Marker.isStale_later stale later (excluded.shown guard member)
        excluded.clockShown nowShown)

/-- A guard that is taken finds all others stale. -/
theorem Excluded.taken
    (excluded : Excluded window tree clock guards)
    (nowShown : now.IsShown)
    (later : 0 ≤ now.nanosecondsSince clock)
    {process : Nat}
    {guard : Guard}
    (small : process < Word.bound 32)
    (run : (acquire process now window false).runOn tree = (.ok guard, changed)) :
    Excluded window changed now (guard :: guards) := by
  obtain ⟨marker_eq, noneLive, carries⟩ := acquire_ok run
  have unchanged := excluded.later nowShown later (Keeps.refl tree)
  have stale : ∀ other ∈ guards, other.marker.isStale now window = true := by
    intro other member
    rcases unchanged.marked other member with there | before
    · exact noneLive other.marker there
    · exact before
  refine ⟨nowShown, ?_, ?_, ?_, ?_⟩
  · intro other member
    rcases List.mem_cons.mp member with rfl | old
    · rwa [marker_eq]
    · exact excluded.shown other old
  · intro other member
    rcases List.mem_cons.mp member with rfl | old
    · rw [marker_eq, Instant.nanosecondsSince_self]
    · exact unchanged.past other old
  · refine List.pairwise_cons.mpr ⟨?_, excluded.apart⟩
    intro other old
    rw [Apart, marker_eq]
    exact (Marker.isStale_eq_true_iff _ _ _).mp (stale other old)
  · intro other member
    rcases List.mem_cons.mp member with rfl | old
    · rw [marker_eq]
      exact Or.inl (carries ⟨small, nowShown.proper⟩)
    · exact Or.inr (stale other old)

/-- A guard that is released takes no other marker with it, unless that one is stale. -/
theorem Excluded.released
    {newer older : List Guard}
    {guard : Guard}
    (excluded : Excluded window tree clock (newer ++ guard :: older)) :
    Excluded window ((release guard).runOn tree).2 clock (newer ++ older) := by
  have remaining : (newer ++ older).Sublist (newer ++ guard :: older) :=
    (List.sublist_cons_self guard older).append_left newer
  refine ⟨excluded.clockShown, fun other member => excluded.shown other (remaining.subset member),
    fun other member => excluded.past other (remaining.subset member),
    excluded.apart.sublist remaining, ?_⟩
  intro other member
  have past := excluded.past other (remaining.subset member)
  rcases excluded.marked other (remaining.subset member) with carries | stale
  · by_cases same : other.marker = guard.marker
    · -- equal markers are not apart, so the window is negative and everything is stale
      right
      have negative : window * 1000000000 < 0 := by
        obtain ⟨-, fromGuard, fromNewer⟩ := List.pairwise_append.mp excluded.apart
        rcases List.mem_append.mp member with isNewer | isOlder
        · have apart := fromNewer other isNewer guard List.mem_cons_self
          rwa [Apart, same, Instant.nanosecondsSince_self] at apart
        · have apart := (List.pairwise_cons.mp fromGuard).1 other isOlder
          rwa [Apart, same, Instant.nanosecondsSince_self] at apart
      rw [Marker.isStale_eq_true_iff]
      omega
    · exact Or.inl (carries_release guard carries same)
  · exact Or.inr stale

end Steps

/-- The invariant of the world. -/
def World.IsExcluded (window : Int) (world : World) : Prop :=
  Excluded window world.tree world.clock world.guards

theorem World.clock_after (window : Int) (world : World) (event : Event) :
    (world.after window event).clock = event.clockAfter world.clock := by
  cases event with
  | acquire process now =>
    rw [after]
    split <;> rfl
  | release place =>
    rw [after]
    split <;> rfl
  | status now => rfl
  | crash place => rfl

/-- A guard whose process has crashed is still there. -/
theorem World.guards_after_crash (window : Int) (world : World) (place : Nat) :
    (world.after window (.crash place)).guards = world.guards := by
  unfold guards
  rw [after]
  apply List.ext_getElem
  · rw [List.length_map, List.length_map, List.length_modify]
  · intro index _ _
    rw [List.getElem_map, List.getElem_map, List.getElem_modify]
    split <;> rfl

/-- Every event preserves the invariant. -/
theorem World.IsExcluded.after
    {window : Int}
    {world : World}
    (excluded : world.IsExcluded window)
    {event : Event}
    (admissible : event.Admissible world.clock) :
    (world.after window event).IsExcluded window := by
  cases event with
  | acquire process now =>
    obtain ⟨small, nowShown, later⟩ := admissible
    rw [World.after]
    split
    · rename_i taken
      exact Excluded.taken excluded nowShown later small taken
    · rename_i refused
      exact Excluded.later excluded nowShown later (keeps_of_acquire_error refused)
  | release place =>
    rw [World.after]
    split
    · rename_i guard held
      obtain ⟨inside, atPlace⟩ := List.getElem?_eq_some_iff.mp held
      have split := List.take_append_drop place world.holdings
      rw [List.drop_eq_getElem_cons inside, atPlace] at split
      unfold World.IsExcluded World.guards at excluded ⊢
      rw [← split, List.map_append, List.map_cons] at excluded
      rw [List.eraseIdx_eq_take_drop_succ, List.map_append]
      exact excluded.released
    · exact excluded
  | status now => exact excluded
  | crash place =>
    unfold World.IsExcluded at excluded ⊢
    rw [world.guards_after_crash]
    exact excluded

/-- Every run preserves the invariant. -/
theorem World.IsExcluded.run
    {window : Int}
    {world : World}
    (excluded : world.IsExcluded window)
    {events : List Event}
    (timely : Timely world.clock events) :
    (world.run window events).IsExcluded window := by
  induction events generalizing world with
  | nil => exact excluded
  | cons event rest inductionHypothesis =>
    obtain ⟨admissible, following⟩ := timely
    rw [← world.clock_after window] at following
    exact inductionHypothesis (excluded.after admissible) following

/-- At no time is more than one guard no older than the window. -/
theorem Excluded.length_live_le_one
    {window : Int}
    {tree : Tree}
    {clock now : Instant}
    {guards : List Guard}
    (excluded : Excluded window tree clock guards)
    (nowShown : now.IsShown)
    (later : 0 ≤ now.nanosecondsSince clock) :
    (guards.filter fun guard => !guard.marker.isStale now window).length ≤ 1 := by
  have past := (excluded.later nowShown later (Keeps.refl tree)).past
  have apart := excluded.apart.filter fun guard => !guard.marker.isStale now window
  have isLive : ∀ guard ∈ guards.filter fun guard => !guard.marker.isStale now window,
      guard ∈ guards ∧ guard.marker.isStale now window = false := by
    intro guard member
    simpa using List.mem_filter.mp member
  generalize guards.filter (fun guard => !guard.marker.isStale now window) = live at apart isLive ⊢
  match live with
  | [] => exact Nat.zero_le 1
  | [_] => exact Nat.le_refl 1
  | newer :: older :: _ =>
    exfalso
    have between := (List.pairwise_cons.mp apart).1 older List.mem_cons_self
    have isNewer := (isLive newer List.mem_cons_self).1
    obtain ⟨isOlder, live⟩ := isLive older (List.mem_cons_of_mem _ List.mem_cons_self)
    -- the older one was stale when the newer one was taken, and has stayed so
    have staleThen := (Marker.isStale_eq_true_iff _ _ _).mpr between
    have staleNow := Marker.isStale_later staleThen (past newer isNewer)
      (excluded.shown older isOlder) (excluded.shown newer isNewer) nowShown
    rw [live] at staleNow
    cases staleNow

/-- The lock excludes: of two guards that were not released, the later one was taken more than the
window after the earlier one, and at no time is more than one of them no older than the window. -/
theorem run_excludes
    (window : Int)
    {start : World}
    (initial : start.IsInitial)
    {events : List Event}
    (timely : Timely start.clock events) :
    (start.run window events).guards.Pairwise
        (fun later earlier =>
          window * 1000000000 < later.marker.since.nanosecondsSince earlier.marker.since) ∧
      ∀ now : Instant, now.IsShown → 0 ≤ now.nanosecondsSince (start.run window events).clock →
        ((start.run window events).guards.filter fun guard =>
          !guard.marker.isStale now window).length ≤ 1 := by
  have initially : start.IsExcluded window := by
    unfold World.IsExcluded World.guards
    rw [initial.holdings]
    exact ⟨initial.clock, by simp, by simp, List.Pairwise.nil, by simp⟩
  have excluded := initially.run timely
  exact ⟨excluded.apart, fun now nowShown later => excluded.length_live_le_one nowShown later⟩

/-- The first process crashes; the second one is refused at the end of the window and takes the lock
over a second later. -/
theorem run_excludes_after_crash :
    let start : World := ⟨Tree.empty "/project", ⟨⟨2026, 5, 4⟩, 43200, 0⟩, [], []⟩
    let events : List Event :=
      [ .acquire 1 ⟨⟨2026, 5, 4⟩, 43200, 0⟩, .crash 0, .acquire 2 ⟨⟨2026, 5, 4⟩, 43500, 0⟩,
        .status ⟨⟨2026, 5, 4⟩, 43500, 1000000⟩, .acquire 2 ⟨⟨2026, 5, 4⟩, 43501, 0⟩ ]
    Timely start.clock events ∧
      (start.run standardWindow events).guards.map Guard.marker =
        [⟨2, ⟨⟨2026, 5, 4⟩, 43501, 0⟩⟩, ⟨1, ⟨⟨2026, 5, 4⟩, 43200, 0⟩⟩] ∧
      ∀ now : Instant, now.IsShown →
        0 ≤ now.nanosecondsSince (start.run standardWindow events).clock →
        ((start.run standardWindow events).guards.filter fun guard =>
          !guard.marker.isStale now standardWindow).length ≤ 1 := by
  intro start events
  have timely : Timely start.clock events := by decide
  have initial : start.IsInitial := ⟨rfl, by decide⟩
  exact ⟨timely, by decide +kernel, (run_excludes standardWindow initial timely).2⟩

end Lock
end QualityGate
