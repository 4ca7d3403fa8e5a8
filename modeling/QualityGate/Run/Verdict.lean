import QualityGate.Report.Basic
import QualityGate.Run.Gates

/-!
# From gates to a report

The findings of every gate are classified and merged in the order of reports.  The finding on a gate
that did not complete is always a violation.
-/

namespace QualityGate
namespace Run

/-- What is known to judge the findings of a run. -/
structure Bench where
  policy : Policy
  enforcement : Enforcement
  now : Instant

/-- The judgement of one gate. -/
structure Verdict where
  line : GateReport
  classification : Classification
  notices : List String
deriving Inhabited

namespace Verdict

/-- The verdict on a gate with a status, its findings and remarks. -/
def ofFindings (run : GateRun) (status : GateStatus) (error? : Option String)
    (classification : Classification) (notices : List String) : Verdict :=
  { line :=
      { gate := run.gate
        status := status
        milliseconds := run.milliseconds
        violations := classification.violations.length
        warnings := classification.warnings.length
        error? := error? }
    classification := classification
    notices := notices }

end Verdict

namespace Bench

/-- The verdict on a gate that completed. -/
def judgeResult (bench : Bench) (run : GateRun) (result : ScanResult) : Verdict :=
  let level := bench.enforcement.level run.gate
  let classification := bench.policy.classify level bench.now result.findings
  let status : GateStatus := if classification.violations.isEmpty then .passed else .failed
  .ofFindings run status none classification
    (result.notices.map fun notice => run.gate.name ++ ": " ++ notice)

/-- The verdict on a gate that did not complete: one violation. -/
def judgeProblem (bench : Bench) (run : GateRun) (status : GateStatus) (problem : Finding) :
    Verdict :=
  let level := bench.enforcement.level run.gate
  .ofFindings run status (some problem.message) ⟨[⟨problem, level, none⟩], []⟩ []

/-- The verdict on a gate. -/
def judge (bench : Bench) (run : GateRun) : Verdict :=
  match run.outcome with
  | .completed result => bench.judgeResult run result
  | .failed _ => bench.judgeProblem run .error (run.problem?.getD default)
  | .timedOut _ => bench.judgeProblem run .timeout (run.problem?.getD default)

end Bench

/-- What a report says besides its verdicts. -/
structure Heading where
  runId : String
  timestamp : Instant
  context : Context
  origin : Scope.Origin
  filesScoped : Nat
  notices : List String

/-- The levels of the selected gates, in the order of gates. -/
def selectedLevels (enforcement : Enforcement) (gates : List Gate) : List (Gate × Level) :=
  (Gate.canonical gates).map fun gate => (gate, enforcement.level gate)

/-- The report on verdicts.  The gates run at the same time, so a run takes as long as its slowest
gate. -/
def assemble (heading : Heading) (enforcement : Enforcement) (gates : List Gate)
    (verdicts : List Verdict) : Report :=
  let violations := Classified.sorted (verdicts.flatMap fun verdict =>
    verdict.classification.violations)
  let warnings := Classified.sorted (verdicts.flatMap fun verdict =>
    verdict.classification.warnings)
  { runId := heading.runId
    timestamp := heading.timestamp
    context := heading.context
    origin := heading.origin
    filesScoped := heading.filesScoped
    milliseconds := (verdicts.map fun verdict => verdict.line.milliseconds).foldl max 0
    passed := violations.isEmpty
    gates := GateReport.sorted (verdicts.map Verdict.line)
    enforcement := selectedLevels enforcement gates
    notices := heading.notices ++ verdicts.flatMap Verdict.notices
    violations := violations
    warnings := warnings }

end Run
end QualityGate
