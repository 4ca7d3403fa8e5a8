import QualityGate.Detector

/-!
# Running gates

Every selected gate is run on its own and under a time limit.  A gate that fails, crashes or does
not finish in time brings exactly one finding that says so, and does not disturb the others.
-/

namespace QualityGate
namespace Run

/-- What a detector does when it is started. -/
inductive Ending where
  | found (result : ScanResult)
  | failed (message : String)
  | crashed (message : String)
deriving Inhabited

/-- The work of a detector: how long it takes, and how it ends if nobody stops it. -/
structure Attempt where
  milliseconds : Nat
  ending : Ending
deriving Inhabited

/-- How a gate ended under its time limit. -/
inductive Outcome where
  | completed (result : ScanResult)
  | failed (message : String)
  | timedOut (limit : Nat)
deriving Inhabited

/-- A gate that was run. -/
structure GateRun where
  gate : Gate
  milliseconds : Nat
  outcome : Outcome
deriving Inhabited

/-- How gates are run: by these detectors, and within the limits of the settings unless there is one
limit for all gates. -/
structure Plan where
  settings : Settings
  detector : Gate → Tree → FileSet → Attempt
  limit? : Option Nat

namespace Attempt

/-- Work that is done at once. -/
def immediate (result : ScanResult) : Attempt :=
  ⟨0, .found result⟩

/-- The work ends before a limit. -/
def endsWithin (attempt : Attempt) (limit : Nat) : Bool :=
  attempt.milliseconds == 0 || attempt.milliseconds < limit

/-- How the work of the gate with a number ends under a time limit. -/
def outcome (attempt : Attempt) (number limit : Nat) : Outcome :=
  if attempt.endsWithin limit then
    match attempt.ending with
    | .found result => .completed result
    | .failed message => .failed message
    | .crashed message =>
      .failed ("gate task panicked: task " ++ Text.decimal number ++ " panicked with message \"" ++
        message ++ "\"")
  else .timedOut limit

end Attempt

namespace Plan

/-- The built-in detectors at an instant. -/
def standard (settings : Settings) (now : Instant) : Plan :=
  { settings := settings
    detector := fun gate tree files => .immediate (gate.scan settings now tree files)
    limit? := none }

/-- The milliseconds a gate may take. -/
def limitFor (plan : Plan) (gate : Gate) : Nat :=
  plan.limit?.getD (plan.settings.timeouts.secondsFor gate.name * 1000)

/-- Run one gate, which has a number among the selected ones. -/
def runGate (plan : Plan) (tree : Tree) (files : FileSet) (number : Nat) (gate : Gate) : GateRun :=
  let attempt := plan.detector gate tree files
  let limit := plan.limitFor gate
  ⟨gate, min attempt.milliseconds limit, attempt.outcome number limit⟩

/-- Run the gates of a list, in its order. -/
def runGates (plan : Plan) (tree : Tree) (files : FileSet) (gates : List Gate) : List GateRun :=
  gates.mapIdx fun index gate => plan.runGate tree files (index + 1) gate

end Plan

namespace Outcome

/-- The status, rule and message of the finding on a gate that did not complete. -/
def problem? : Outcome → Option (String × String)
  | .completed _ => none
  | .failed message => some ("GATE_ERROR", "Gate failed to run: " ++ message)
  | .timedOut limit =>
    some ("TIMEOUT", "Gate did not finish within " ++ Text.decimal limit ++ "ms")

end Outcome

namespace GateRun

/-- The finding on a gate that did not complete. -/
def problem? (run : GateRun) : Option Finding :=
  run.outcome.problem?.map fun (rule, message) =>
    ((Finding.ofFile run.gate rule message ".").withSeverity .error).withSuggestion
      "Re-run with --verbose; raise the gate timeout if the scope is large"

end GateRun
end Run
end QualityGate
