import QualityGate.Proofs.Policy.Classification
import QualityGate.Proofs.Report.Order
import QualityGate.Run.Perform
import Mathlib.Algebra.Ring.Nat
import Mathlib.Data.List.Flatten
import Mathlib.Data.List.Perm.Basic
import Mathlib.Data.List.Perm.Subperm

/-!
# Conservation of findings

A report accounts for every gate that was selected.  What a gate that completed has found is in the
report, each finding once and at the level of its gate; a gate that did not complete is there with
one finding that says so, and no exception and no level makes that finding less than a violation.
The counts of the lines, the order of the lists and the outcome of the run agree with them.
-/

namespace QualityGate
namespace Run

/-- The rule of the finding on a gate that did not complete. -/
def Outcome.problemRule? : Outcome → Option String
  | .completed _ => none
  | .failed _ => some "GATE_ERROR"
  | .timedOut _ => some "TIMEOUT"

namespace GateRun

/-- A gate that did not complete has one finding of its own, a gate that completed has none. -/
theorem problem?_rule (run : GateRun) :
    run.problem?.map (fun problem => (problem.gate, problem.rule)) =
      run.outcome.problemRule?.map fun rule => (run.gate, rule) := by
  unfold problem?
  cases run.outcome <;> rfl

/-- What a gate adds to a report: what it found, or the finding that it did not complete. -/
def contribution (run : GateRun) : List Finding :=
  match run.outcome with
  | .completed result => result.findings
  | _ => run.problem?.toList

/-- A gate completes and contributes what it found, or has a problem and contributes that. -/
theorem completed_or_problem (run : GateRun) :
    (∃ result, run.outcome = .completed result ∧ run.problem? = none ∧
        run.contribution = result.findings) ∨
      ∃ problem, run.problem? = some problem ∧ run.contribution = [problem] := by
  cases outcome : run.outcome with
  | completed result =>
    refine Or.inl ⟨result, rfl, ?_, ?_⟩
    · rw [problem?, outcome]
      rfl
    · rw [contribution, outcome]
  | failed message =>
    have contributed : run.contribution = run.problem?.toList := by rw [contribution, outcome]
    rw [contributed, problem?, outcome]
    exact Or.inr ⟨_, rfl, rfl⟩
  | timedOut limit =>
    have contributed : run.contribution = run.problem?.toList := by rw [contribution, outcome]
    rw [contributed, problem?, outcome]
    exact Or.inr ⟨_, rfl, rfl⟩

end GateRun

namespace Bench

/-- The finding on a gate that did not complete, as a violation that nothing lets pass. -/
def problemViolation? (bench : Bench) (run : GateRun) : Option Classified :=
  run.problem?.map fun problem => ⟨problem, bench.enforcement.level run.gate, none⟩

/-- A line of a report is about a gate that was run. -/
structure Describes (bench : Bench) (run : GateRun) (line : GateReport) : Prop where
  gate : line.gate = run.gate
  violations : line.violations = (bench.judge run).classification.violations.length
  warnings : line.warnings = (bench.judge run).classification.warnings.length
  passed_iff : line.status = .passed ↔
    (∃ result, run.outcome = .completed result) ∧ line.violations = 0

end Bench

/-- A report says everything about the gates that were run, and nothing else. -/
structure Accounted
    (bench : Bench)
    (gates : List Gate)
    (runs : List GateRun)
    (report : Report) : Prop where
  /-- Every finding is there once, at the level of its gate. -/
  findings :
    ((report.violations ++ report.warnings).map fun classified =>
        (classified.finding, classified.level)).Perm
      (runs.flatMap fun run => run.contribution.map fun finding =>
        (finding, bench.enforcement.level run.gate))
  /-- The violations are those of the single gates. -/
  violations : report.violations.Perm
    (runs.flatMap fun run => (bench.judge run).classification.violations)
  /-- Every gate that did not complete has its violation, which nothing lets pass. -/
  problems : (runs.filterMap bench.problemViolation?).Subperm report.violations
  /-- The rules of these violations. -/
  problemRules : ∀ run ∈ runs,
    run.problem?.map (fun problem => (problem.gate, problem.rule)) =
      run.outcome.problemRule?.map fun rule => (run.gate, rule)
  /-- There is one line for every gate that was selected. -/
  selected : (report.gates.map GateReport.gate).Perm gates
  /-- Every line is about its own gate. -/
  lines : ∃ ordered, ordered.Perm runs ∧ List.Forall₂ bench.Describes ordered report.gates
  linesOrdered : report.gates.Pairwise fun first second => first.gate.rank ≤ second.gate.rank
  violationCount : (report.gates.map GateReport.violations).sum = report.violations.length
  warningCount : (report.gates.map GateReport.warnings).sum = report.warnings.length
  violationsOrdered : report.violations.Pairwise Classified.Precedes
  warningsOrdered : report.warnings.Pairwise Classified.Precedes
  passed_iff : report.passed = true ↔ report.violations = []
  exitCode_iff : report.exitCode = 0 ↔ report.violations = []

/-! ## One gate -/

namespace Bench

/-- The line of a verdict is about the gate that was judged. -/
theorem describes_judge (bench : Bench) (run : GateRun) :
    bench.Describes run (bench.judge run).line := by
  cases outcome : run.outcome with
  | completed result =>
    refine ⟨?_, ?_, ?_, ?_⟩
    · rw [judge, outcome]
      rfl
    · rw [judge, outcome]
      rfl
    · rw [judge, outcome]
      rfl
    · simp only [judge, outcome, judgeResult, Verdict.ofFindings]
      cases (bench.policy.classify (bench.enforcement.level run.gate) bench.now
        result.findings).violations <;> simp
  | failed message =>
    refine ⟨?_, ?_, ?_, ?_⟩ <;> simp [judge, outcome, judgeProblem, Verdict.ofFindings]
  | timedOut limit =>
    refine ⟨?_, ?_, ?_, ?_⟩ <;> simp [judge, outcome, judgeProblem, Verdict.ofFindings]

/-- A gate that did not complete is judged by its problem alone. -/
theorem classification_judge_of_problem?
    (bench : Bench)
    {run : GateRun}
    {problem : Finding}
    (problem_eq : run.problem? = some problem) :
    (bench.judge run).classification =
      ⟨[⟨problem, bench.enforcement.level run.gate, none⟩], []⟩ := by
  cases outcome : run.outcome with
  | completed result => simp [GateRun.problem?, outcome, Outcome.problem?] at problem_eq
  | failed message =>
    rw [judge, outcome, problem_eq]
    rfl
  | timedOut limit =>
    rw [judge, outcome, problem_eq]
    rfl

/-- A gate without a problem is judged by what it found. -/
theorem classification_judge_of_completed
    (bench : Bench)
    {run : GateRun}
    {result : ScanResult}
    (completed : run.outcome = .completed result) :
    (bench.judge run).classification =
      bench.policy.classify (bench.enforcement.level run.gate) bench.now result.findings := by
  rw [judge, completed]
  rfl

/-- The verdict on a gate carries what the gate contributes, each finding once. -/
theorem findings_judge_perm (bench : Bench) (run : GateRun) :
    (((bench.judge run).classification.violations ++
        (bench.judge run).classification.warnings).map fun classified =>
          (classified.finding, classified.level)).Perm
      (run.contribution.map fun finding => (finding, bench.enforcement.level run.gate)) := by
  rcases run.completed_or_problem with
    ⟨result, completed, -, contributed⟩ | ⟨problem, has, contributed⟩
  · rw [bench.classification_judge_of_completed completed, contributed]
    simpa [Policy.attach, Function.comp_def] using
      (bench.policy.classify_perm _ bench.now result.findings).map fun classified =>
        (classified.finding, classified.level)
  · rw [bench.classification_judge_of_problem? has, contributed]
    rfl

/-- The problem of a gate is among the violations of its verdict. -/
theorem problemViolation?_sublist (bench : Bench) (run : GateRun) :
    (bench.problemViolation? run).toList.Sublist
      (bench.judge run).classification.violations := by
  unfold problemViolation?
  cases problem_eq : run.problem? with
  | none => simp
  | some problem => simp [bench.classification_judge_of_problem? problem_eq]

end Bench

/-! ## All gates -/

section Assemble

variable (heading : Heading) (bench : Bench) (gates : List Gate) (runs : List GateRun)

/-- The report on gates that were run and judged. -/
def reportOn : Report :=
  assemble heading bench.enforcement gates (runs.map bench.judge)

theorem violations_perm :
    (reportOn heading bench gates runs).violations.Perm
      (runs.flatMap fun run => (bench.judge run).classification.violations) := by
  simpa [reportOn, assemble, List.flatMap_map] using Classified.sorted_perm _

theorem warnings_perm :
    (reportOn heading bench gates runs).warnings.Perm
      (runs.flatMap fun run => (bench.judge run).classification.warnings) := by
  simpa [reportOn, assemble, List.flatMap_map] using Classified.sorted_perm _

theorem lines_perm :
    (reportOn heading bench gates runs).gates.Perm
      (runs.map fun run => (bench.judge run).line) := by
  simpa [reportOn, assemble, Function.comp_def] using GateReport.sorted_perm _

/-- Every finding that a gate contributes is in the report once, at the level of the gate. -/
theorem findings_perm :
    (((reportOn heading bench gates runs).violations ++
        (reportOn heading bench gates runs).warnings).map fun classified =>
          (classified.finding, classified.level)).Perm
      (runs.flatMap fun run => run.contribution.map fun finding =>
        (finding, bench.enforcement.level run.gate)) := by
  have together := ((violations_perm heading bench gates runs).append
    (warnings_perm heading bench gates runs)).trans (List.flatMap_append_perm runs _ _)
  refine (together.map _).trans ?_
  rw [List.map_flatMap]
  exact List.Perm.flatMap_left runs fun run _ => bench.findings_judge_perm run

/-- The problems of gates are violations of the report. -/
theorem problems_subperm :
    (runs.filterMap bench.problemViolation?).Subperm
      (reportOn heading bench gates runs).violations := by
  have sublist : (runs.filterMap bench.problemViolation?).Sublist
      (runs.flatMap fun run => (bench.judge run).classification.violations) := by
    rw [List.filterMap_eq_flatMap_toList]
    exact List.Sublist.flatMap_right runs fun run _ => bench.problemViolation?_sublist run
  exact sublist.subperm.trans (violations_perm heading bench gates runs).symm.subperm

/-- The lines of the report are those of the gates in the order of gates. -/
theorem lines_eq :
    (reportOn heading bench gates runs).gates =
      (runs.mergeSort fun first second => first.gate.rank ≤ second.gate.rank).map fun run =>
        (bench.judge run).line := by
  rw [List.map_mergeSort (s := fun first second : GateReport => first.gate.rank ≤ second.gate.rank)]
  · simp [reportOn, assemble, GateReport.sorted, Function.comp_def]
  · intro first _ second _
    simp only [(bench.describes_judge first).gate, (bench.describes_judge second).gate]

theorem violationCount_eq :
    ((reportOn heading bench gates runs).gates.map GateReport.violations).sum =
      (reportOn heading bench gates runs).violations.length := by
  rw [(violations_perm heading bench gates runs).length_eq, List.length_flatMap,
    ((lines_perm heading bench gates runs).map _).sum_nat, List.map_map]
  simp only [Function.comp_def, (bench.describes_judge _).violations]

theorem warningCount_eq :
    ((reportOn heading bench gates runs).gates.map GateReport.warnings).sum =
      (reportOn heading bench gates runs).warnings.length := by
  rw [(warnings_perm heading bench gates runs).length_eq, List.length_flatMap,
    ((lines_perm heading bench gates runs).map _).sum_nat, List.map_map]
  simp only [Function.comp_def, (bench.describes_judge _).warnings]

/-- A report accounts for the gates that were run, whatever their outcomes. -/
theorem accounted_reportOn (selected : runs.map GateRun.gate = gates) :
    Accounted bench gates runs (reportOn heading bench gates runs) where
  findings := findings_perm heading bench gates runs
  violations := violations_perm heading bench gates runs
  problems := problems_subperm heading bench gates runs
  problemRules run _ := run.problem?_rule
  selected := by
    have lines := (lines_perm heading bench gates runs).map GateReport.gate
    simp only [List.map_map, Function.comp_def, (bench.describes_judge _).gate] at lines
    exact lines.trans (List.Perm.of_eq selected)
  lines := by
    refine ⟨runs.mergeSort fun first second => first.gate.rank ≤ second.gate.rank,
      List.mergeSort_perm runs _, ?_⟩
    rw [lines_eq, List.forall₂_map_right_iff, List.forall₂_same]
    exact fun run _ => bench.describes_judge run
  linesOrdered := GateReport.pairwise_sorted _
  violationCount := violationCount_eq heading bench gates runs
  warningCount := warningCount_eq heading bench gates runs
  violationsOrdered := Classified.pairwise_sorted _
  warningsOrdered := Classified.pairwise_sorted _
  passed_iff := List.isEmpty_iff
  exitCode_iff := by
    unfold Report.exitCode
    cases (reportOn heading bench gates runs).violations <;>
      simp [Failure.exitPassed, Failure.exitViolations]

end Assemble

/-! ## Whole runs -/

/-- Every selected gate is run once, in the order of the selection. -/
theorem Plan.gates_runGates
    (plan : Plan)
    (tree : Tree)
    (files : FileSet)
    (gates : List Gate) :
    (plan.runGates tree files gates).map GateRun.gate = gates := by
  apply List.ext_getElem
  · simp [runGates]
  · intro index _ _
    simp [runGates, runGate]

/-- What the gates of a run on some files are judged by. -/
def benchOn
    (plan : Plan)
    (options : Options)
    (surroundings : Surroundings)
    (tree : Tree) : Bench :=
  ⟨(Policy.load tree surroundings.now).policy, ⟨options.context, plan.settings.enforcement⟩,
    surroundings.now⟩

/-- How the selected gates of a run on some files end. -/
def runsOn
    (plan : Plan)
    (selection : Selection)
    (options : Options)
    (tree : Tree) : List GateRun :=
  plan.runGates tree
    (Scope.resolve tree selection.exclusion selection.git selection.pushBase? options.context).files
    options.gates

/-- What is delivered is the report or a failure. -/
theorem eq_of_deliver
    {target? : Option String}
    {guard : Lock.Guard}
    {report delivered : Report}
    {tree : Tree}
    (success : (deliver target? guard report tree).1 = .ok delivered) :
    delivered = report := by
  unfold deliver at success
  split at success
  · cases success
  · split at success
    · cases success
    · exact (Except.ok.inj success).symm

/-- A run that has the lock builds a report that accounts for every selected gate, however the gates
end, and returns no other report. -/
theorem perform_accounts_for_gates
    (plan : Plan)
    (selection : Selection)
    (options : Options)
    (surroundings : Surroundings)
    {tree held : Tree}
    {guard : Lock.Guard}
    (taken : start options surroundings tree = (.ok guard, held)) :
    Accounted (benchOn plan options surroundings held) options.gates
        (runsOn plan selection options held)
        (examine plan selection options surroundings guard held) ∧
      ∀ report, (perform plan selection options surroundings tree).result = .ok report →
        report = examine plan selection options surroundings guard held := by
  constructor
  · exact accounted_reportOn _ (benchOn plan options surroundings held) options.gates _
      (plan.gates_runGates held _ options.gates)
  · intro report returned
    unfold perform at returned
    rw [taken] at returned
    exact eq_of_deliver returned

/-- Detectors that end in every possible way. -/
def mixedPlan : Plan where
  settings := {}
  detector gate _ _ :=
    match gate with
    | .naming => ⟨0, .failed "boom"⟩
    | .duplication => ⟨30000, .found ⟨[], []⟩⟩
    | .godObject =>
      .immediate ⟨[(Finding.ofFile .godObject "RULE" "message" "src/a.rs").atLine 1], []⟩
    | .placeholder => ⟨0, .crashed "mock detector panic"⟩
    | _ => .immediate ⟨[], []⟩
  limit? := some 200

/-- A run of all gates in an empty project, with detectors that end in every possible way. -/
theorem perform_accounts_for_mixed_gates :
    let options : Options := { context := .ci }
    let surroundings : Surroundings := ⟨7, ⟨⟨2026, 5, 4⟩, 43200, 0⟩, "run", none⟩
    let selection : Selection := ⟨.standard, .missing, none⟩
    let tree := Tree.empty "/project"
    ∃ guard held, start options surroundings tree = (.ok guard, held) ∧
      Accounted (benchOn mixedPlan options surroundings held) Gate.all
        (runsOn mixedPlan selection options held)
        (examine mixedPlan selection options surroundings guard held) := by
  intro options surroundings selection tree
  have taken : start options surroundings tree =
      (.ok ⟨⟨7, surroundings.now⟩, .unlocked, .held ⟨7, surroundings.now⟩, []⟩,
        (start options surroundings tree).2) :=
    Prod.ext rfl rfl
  exact ⟨_, _, taken, (perform_accounts_for_gates mixedPlan selection options surroundings taken).1⟩

end Run
end QualityGate
