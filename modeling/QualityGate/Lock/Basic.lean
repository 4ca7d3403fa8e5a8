import QualityGate.Failure
import QualityGate.Lock.Marker

/-!
# The run lock

At most one run at a time.  A run that finds a live marker gives up unless it is forced; a marker
older than the window of staleness was left behind and is taken over, and so is a marker that cannot
be read.
-/

namespace QualityGate
namespace Lock

/-- The seconds after which a marker counts as left behind. -/
def standardWindow : Int := 300

/-- The stage of a lock. -/
inductive Stage where
  | unlocked
  | held (marker : Marker)
  | released
  /-- A stale marker was taken over. -/
  | reclaimed (marker : Marker)
deriving Repr, DecidableEq, Inhabited

/-- What is known about a lock from outside. -/
inductive Status where
  | free
  | live (marker : Marker)
  | stale (marker : Marker)
  | corrupt (message : String)
deriving Repr, DecidableEq

/-- The status of a lock whose marker was read. -/
def Status.ofReading (now : Instant) (window : Int) : Reading → Status
  | .absent => .free
  | .corrupt message => .corrupt message
  | .marked marker => if marker.isStale now window then .stale marker else .live marker

/-- Leave to take a lock: its stage before, and remarks. -/
structure Admission where
  previous : Stage
  notices : List String
deriving Repr, DecidableEq

/-- Whether a run may take a lock whose marker was read. -/
def letIn (now : Instant) (window : Int) (force : Bool) : Reading → Except Failure Admission
  | .absent => .ok ⟨.unlocked, []⟩
  | .corrupt message =>
    .ok ⟨.unlocked, ["Replaced an unreadable run lock marker (" ++ message ++ ")"]⟩
  | .marked marker =>
    if marker.isStale now window then
      .ok ⟨.reclaimed marker,
        ["Reclaimed stale run lock held by pid " ++ Text.decimal marker.process ++ " since " ++
          marker.since.offsetText]⟩
    else if force then
      .ok ⟨.held marker,
        ["Bypassed the run lock held by pid " ++ Text.decimal marker.process ++ " (--force)"]⟩
    else .error (.lockHeld marker.process marker.since.offsetText)

/-- A run is refused exactly where it finds a live marker and is not forced. -/
theorem letIn_eq_error_iff {now : Instant} {window : Int} {force : Bool} {reading : Reading}
    {failure : Failure} :
    letIn now window force reading = .error failure ↔
      ∃ marker, reading = .marked marker ∧ marker.isStale now window = false ∧ force = false ∧
        failure = .lockHeld marker.process marker.since.offsetText := by
  cases reading with
  | absent => simp [letIn]
  | corrupt message => simp [letIn]
  | marked marker => grind [letIn]

/-- A lock that was taken. -/
structure Guard where
  marker : Marker
  previous : Stage
  stage : Stage
  notices : List String
deriving Repr, DecidableEq

namespace Guard

/-- The guard of a run that was let in and left its marker. -/
def ofAdmission (marker : Marker) (admission : Admission) : Guard :=
  ⟨marker, admission.previous, .held marker, admission.notices⟩

/-- The lock was not released yet. -/
def isHeld (guard : Guard) : Bool :=
  match guard.stage with
  | .held _ => true
  | _ => false

/-- The marker that was read is the one of this guard. -/
def owns (guard : Guard) (reading : Reading) : Bool :=
  reading == .marked guard.marker

/-- The guard after its release. -/
def afterRelease (guard : Guard) : Guard :=
  { guard with stage := .released }

end Guard
end Lock
end QualityGate
