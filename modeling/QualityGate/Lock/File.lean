import QualityGate.Effect
import QualityGate.Lock.Basic
import QualityGate.Settings

/-!
# The file of the run lock

The marker lives in a file of the project.  It is only read and replaced in a section that one run
at a time can enter, guarded by a file beside it; it is replaced in one step, by moving a finished
file into its place.
-/

namespace QualityGate
namespace Lock

/-- The file that guards the section. -/
def guardPath : String := Settings.lockPath ++ ".guard"

/-- The file in which a marker is written before it is moved into its place. -/
def draftPath : String := Settings.lockPath ++ ".tmp"

/-- Make a file if there is none. -/
def touch (path : String) (tree : Tree) : Except FileFault Tree :=
  match tree.find path with
  | .ok (.file _) => .ok tree
  | _ => tree.write path (.text "")

/-- Enter the guarded section. -/
def enter : Effect Unit := do
  Effect.change (Tree.makeFolders · Settings.stateDir) .file
  Effect.change (touch guardPath) .file

/-- What the file of the marker says. -/
def readMarker (tree : Tree) : Except Failure Reading :=
  match tree.read Settings.lockPath with
  | .ok text => .ok (.ofText text)
  | .error .missing => .ok .absent
  | .error fault =>
    .error (.lock ("Failed to read " ++ Location.join tree.root Settings.lockPath ++ ": " ++
      fault.message))

/-- Put a marker into its file. -/
def writeMarker (marker : Marker) : Effect Unit := do
  let explain (fault : FileFault) : Failure :=
    .lock ("Failed to write run lock: " ++ fault.message)
  Effect.change (Tree.write · draftPath (.text marker.render)) explain
  Effect.change (Tree.move · draftPath Settings.lockPath) explain

/-- What is known about the lock of a project. -/
def status (tree : Tree) (now : Instant) (window : Int) : Except Failure Status :=
  (readMarker tree).map (Status.ofReading now window)

/-- Take the lock for a process. -/
def acquire (process : Nat) (now : Instant) (window : Int) (force : Bool) : Effect Guard := do
  enter
  let reading ← Effect.ofExcept (readMarker (← get))
  let admission ← Effect.ofExcept (letIn now window force reading)
  let marker : Marker := ⟨process, now⟩
  writeMarker marker
  return .ofAdmission marker admission

/-- Release the lock.  Only the guard's own marker is removed; another run may have replaced it. -/
def release (guard : Guard) : Effect Guard := do
  if guard.isHeld then
    enter
    let reading ← Effect.ofExcept (readMarker (← get))
    if guard.owns reading then Effect.change (Tree.remove · Settings.lockPath) .file
    return guard.afterRelease
  else return guard

/-- Remove the marker, whoever left it. -/
def clear : Effect (Option Marker) := do
  enter
  match ← Effect.ofExcept (readMarker (← get)) with
  | .absent => return none
  | reading =>
    Effect.change (Tree.remove · Settings.lockPath) .file
    return reading.marker?

end Lock
end QualityGate
