import QualityGate.Lock.File
import QualityGate.Report.Summary
import QualityGate.Run.Verdict

/-!
# A run

A run takes the lock, chooses its files, runs the selected gates, judges what they found, writes the
report and releases the lock.  Without the lock nothing happens, and the lock is released whether
the report can be written or not.
-/

namespace QualityGate
namespace Run

/-- What to run. -/
structure Options where
  context : Context
  gates : List Gate := Gate.all
  force : Bool := false
  /-- Remarks from before the run. -/
  notices : List String := []

/-- Who runs, when, and where a summary is wanted. -/
structure Surroundings where
  process : Nat
  now : Instant
  runId : String
  summaryTarget? : Option String := none

/-- What a run leaves: its result, the gates that were scanned, and the files. -/
structure Trace where
  result : Except Failure Report
  scanned : List Gate
  tree : Tree

/-- How the files of a run are chosen. -/
structure Selection where
  exclusion : Scope.Exclusion
  git : Git
  pushBase? : Option String

namespace Selection

/-- The selection of a project by its settings. -/
def ofProject (tree : Tree) (settings : ScopeSettings) (git : Git) : Selection :=
  ⟨.ofProject tree settings, git, settings.pushBase?⟩

end Selection

/-- Run the gates and judge what they found. -/
def examine
    (plan : Plan)
    (selection : Selection)
    (options : Options)
    (surroundings : Surroundings)
    (guard : Lock.Guard)
    (tree : Tree) : Report :=
  let scope := Scope.resolve tree selection.exclusion selection.git selection.pushBase?
    options.context
  let loaded := Policy.load tree surroundings.now
  let enforcement : Enforcement := ⟨options.context, plan.settings.enforcement⟩
  let bench : Bench := ⟨loaded.policy, enforcement, surroundings.now⟩
  let runs := plan.runGates tree scope.files options.gates
  assemble
    { runId := surroundings.runId
      timestamp := surroundings.now
      context := options.context
      origin := scope.origin
      filesScoped := scope.files.size
      notices := options.notices ++ guard.notices ++ scope.notices ++ loaded.notices }
    enforcement options.gates (runs.map bench.judge)

/-- Append the summary of a report to its target; a failure does not matter. -/
def appendSummary (target? : Option String) (report : Report) (tree : Tree) : Tree :=
  match target? with
  | none => tree
  | some target =>
    match tree.append target report.summary with
    | .ok appended => appended
    | .error _ => tree

/-- Release the lock; a failure does not matter. -/
def abandon (guard : Lock.Guard) (tree : Tree) : Tree :=
  (Effect.runOn (Lock.release guard) tree).2

/-- Write the report of a run and release its lock. -/
def deliver (target? : Option String) (guard : Lock.Guard) (report : Report) (tree : Tree) :
    Except Failure Report × Tree :=
  match Effect.runOn report.write tree with
  | (.error failure, tree) => (.error failure, abandon guard tree)
  | (.ok _, tree) =>
    match Effect.runOn (Lock.release guard) (appendSummary target? report tree) with
    | (.error failure, tree) => (.error failure, tree)
    | (.ok _, tree) => (.ok report, tree)

/-- Take the lock of a run. -/
def start (options : Options) (surroundings : Surroundings) (tree : Tree) :
    Except Failure Lock.Guard × Tree :=
  Effect.runOn
    (Lock.acquire surroundings.process surroundings.now Lock.standardWindow options.force) tree

/-- Run gates on a project. -/
def perform
    (plan : Plan)
    (selection : Selection)
    (options : Options)
    (surroundings : Surroundings)
    (tree : Tree) : Trace :=
  match start options surroundings tree with
  | (.error failure, tree) => ⟨.error failure, [], tree⟩
  | (.ok guard, tree) =>
    let report := examine plan selection options surroundings guard tree
    let (result, tree) := deliver surroundings.summaryTarget? guard report tree
    ⟨result, options.gates, tree⟩

end Run
end QualityGate
