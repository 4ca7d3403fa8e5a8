import QualityGate.Effect
import QualityGate.Policy.Classification
import QualityGate.Scope.Resolve

/-!
# Reports

What a run brings back: how every gate ended, and all findings.
-/

namespace QualityGate

/-- How a gate ended. -/
inductive GateStatus where
  | passed
  | failed
  | timeout
  | error
deriving Repr, DecidableEq, Inhabited

namespace GateStatus

/-- The name of a status. -/
def name : GateStatus → String
  | .passed => "passed"
  | .failed => "failed"
  | .timeout => "timeout"
  | .error => "error"

/-- The statuses under their names. -/
def byName : List (String × GateStatus) :=
  [GateStatus.passed, .failed, .timeout, .error].map fun status => (status.name, status)

end GateStatus

/-- The line of a report on one gate. -/
structure GateReport where
  gate : Gate
  status : GateStatus
  milliseconds : Nat
  violations : Nat
  warnings : Nat
  error? : Option String
deriving Repr, DecidableEq, Inhabited

/-- The report on a run. -/
structure Report where
  runId : String
  timestamp : Instant
  context : Context
  origin : Scope.Origin
  filesScoped : Nat
  milliseconds : Nat
  passed : Bool
  gates : List GateReport
  enforcement : List (Gate × Level)
  notices : List String
  violations : List Classified
  warnings : List Classified
deriving Inhabited

namespace GateReport

/-- How the line of a report is found in a document; counts that are not given are zero. -/
def decoder : Decoder GateReport :=
  Decoder.record "GateReport" default
    [ .required "gate" (.choice Gate.byName) fun value report => { report with gate := value },
      .required "status" (.choice GateStatus.byName) fun value report =>
        { report with status := value },
      .defaulted "durationMs" .natural64 fun value report => { report with milliseconds := value },
      .defaulted "violations" .size fun value report => { report with violations := value },
      .defaulted "warnings" .size fun value report => { report with warnings := value },
      .nullable "error" .text fun value report => { report with error? := value } ]

/-- The line of a report in a document. -/
def toJson (report : GateReport) : Json :=
  .object
    ([ ("gate", .text report.gate.name), ("status", .text report.status.name),
        ("durationMs", .natural report.milliseconds), ("violations", .natural report.violations),
        ("warnings", .natural report.warnings) ] ++
      Finding.member? "error" (report.error?.map .text))

/-- Lines in the order of the gates; equal ones keep their order. -/
def sorted (reports : List GateReport) : List GateReport :=
  reports.mergeSort fun first second => first.gate.rank ≤ second.gate.rank

end GateReport

namespace Report

/-- The levels of gates under their names, in the order of gates. -/
def levelsOf (levels : Dictionary Level) : List (Gate × Level) :=
  Gate.all.filterMap fun gate => (Dictionary.find? gate.name levels).map fun level => (gate, level)

/-- How a report is found in a document; counts that are not given are zero, and lists are empty. -/
def decoder : Decoder Report :=
  Decoder.record "RunReport" default
    [ .defaulted "runId" .text fun value report => { report with runId := value },
      .required "timestamp" .instant fun value report => { report with timestamp := value },
      .required "context" (.choice Context.byName) fun value report =>
        { report with context := value },
      .required "scopeSource" (.choice Scope.Origin.byName) fun value report =>
        { report with origin := value },
      .defaulted "filesScoped" .size fun value report => { report with filesScoped := value },
      .defaulted "durationMs" .natural64 fun value report => { report with milliseconds := value },
      .defaulted "passed" .flag fun value report => { report with passed := value },
      .defaulted "gates" (.sequence GateReport.decoder) fun value report =>
        { report with gates := value },
      .defaulted "enforcement" (.dictionary (.choice Level.byName)) fun value report =>
        { report with enforcement := levelsOf value },
      .defaulted "notices" (.sequence .text) fun value report => { report with notices := value },
      .defaulted "violations" (.sequence Classified.decoder) fun value report =>
        { report with violations := value },
      .defaulted "warnings" (.sequence Classified.decoder) fun value report =>
        { report with warnings := value } ]

/-- A report as a document. -/
def toJson (report : Report) : Json :=
  .object
    [ ("runId", .text report.runId), ("timestamp", .text report.timestamp.zuluText),
      ("context", .text report.context.name), ("scopeSource", .text report.origin.name),
      ("filesScoped", .natural report.filesScoped), ("durationMs", .natural report.milliseconds),
      ("passed", .boolean report.passed), ("gates", .array (report.gates.map GateReport.toJson)),
      ("enforcement", .object (report.enforcement.map fun (gate, level) =>
        (gate.name, .text level.name))),
      ("notices", .texts report.notices),
      ("violations", .array (report.violations.map Classified.toJson)),
      ("warnings", .array (report.warnings.map Classified.toJson)) ]

/-- A report in writing. -/
def render (report : Report) : String :=
  report.toJson.indented

/-- The exit code of a run with this report. -/
def exitCode (report : Report) : Nat :=
  if report.violations.isEmpty then Failure.exitPassed else Failure.exitViolations

/-- Keep a report in the project. -/
def write (report : Report) : Effect Unit := do
  let path := Location.join (← get).root Settings.reportPath
  let explain (fault : FileFault) : Failure := .report path fault.message
  Effect.change (Tree.makeFolders · Settings.stateDir) explain
  Effect.change (Tree.write · Settings.reportPath (.text report.render)) explain

end Report
end QualityGate
