import QualityGate.Proofs.Run.Alike
import QualityGate.Proofs.Run.Release

/-!
# Repeated runs

A run writes nothing but files of the state directory, and no path in scope leads there.  So a run
that brings back a report can be repeated at once: the second report has the same violations and
warnings, from the same number of files with the same origin.  This is about trees, which have no
links: a link from a file in scope to one that runs write would lead there.
-/

namespace QualityGate
namespace Run

/-! ## What gates in time find -/

/-- The plan runs the built-in detectors, and each of them ends within its limit. -/
structure Plan.IsTimely (plan : Plan) (settings : Settings) (now : Instant) : Prop where
  configured : plan.settings = settings
  ending : ∀ gate tree files,
    (plan.detector gate tree files).ending = .found (gate.scan settings now tree files)
  inTime : ∀ gate tree files,
    (plan.detector gate tree files).endsWithin (plan.limitFor gate) = true

/-- The plan with the detectors that are built in is timely. -/
theorem Plan.isTimely_standard
    (settings : Settings)
    (now : Instant) :
    (Plan.standard settings now).IsTimely settings now :=
  ⟨rfl, fun _ _ _ => rfl, fun _ _ _ => rfl⟩

theorem Plan.IsTimely.outcome_runGate
    {plan : Plan}
    {settings : Settings}
    {now : Instant}
    (timely : plan.IsTimely settings now)
    (tree : Tree)
    (files : FileSet)
    (number : Nat)
    (gate : Gate) :
    (plan.runGate tree files number gate).outcome =
      .completed (gate.scan settings now tree files) := by
  rw [runGate, Attempt.outcome, if_pos (timely.inTime gate tree files),
    timely.ending gate tree files]

/-- The judgement of what a gate finds in some files. -/
def judgement
    (settings : Settings)
    (context : Context)
    (now : Instant)
    (tree : Tree)
    (files : FileSet)
    (gate : Gate) : Classification :=
  (Policy.load tree now).policy.classify (Enforcement.level ⟨context, settings.enforcement⟩ gate)
    now (gate.scan settings now tree files).findings

section Examine

variable {plan : Plan} {settings : Settings} {surroundings : Surroundings}

/-- Gates that end in time are judged by what they find. -/
theorem map_judge_runGates
    (timely : plan.IsTimely settings surroundings.now)
    (options : Options)
    (tree : Tree)
    (files : FileSet) :
    (plan.runGates tree files options.gates).map (fun run =>
        ((benchOn plan options surroundings tree).judge run).classification) =
      options.gates.map (judgement settings options.context surroundings.now tree files) := by
  apply List.ext_getElem
  · simp [Plan.runGates]
  · intro index _ _
    simp only [List.getElem_map, Plan.runGates, List.getElem_mapIdx]
    rw [Bench.classification_judge_of_completed _ (timely.outcome_runGate ..)]
    dsimp only [benchOn]
    rw [timely.configured]
    rfl

/-- The lists of a report are put together from the judgements of its gates. -/
theorem findings_examine
    (timely : plan.IsTimely settings surroundings.now)
    (selection : Selection)
    (options : Options)
    (guard : Lock.Guard)
    (tree : Tree) :
    let files := (Scope.resolve tree selection.exclusion selection.git selection.pushBase?
      options.context).files
    let judgements :=
      options.gates.map (judgement settings options.context surroundings.now tree files)
    let report := examine plan selection options surroundings guard tree
    report.violations = Classified.sorted (judgements.flatMap Classification.violations) ∧
      report.warnings = Classified.sorted (judgements.flatMap Classification.warnings) := by
  intro files judgements report
  have judged := map_judge_runGates timely options tree files
  have violations_eq : report.violations = Classified.sorted
      (((plan.runGates tree files options.gates).map
        (benchOn plan options surroundings tree).judge).flatMap fun verdict =>
          verdict.classification.violations) := rfl
  have warnings_eq : report.warnings = Classified.sorted
      (((plan.runGates tree files options.gates).map
        (benchOn plan options surroundings tree).judge).flatMap fun verdict =>
          verdict.classification.warnings) := rfl
  dsimp only [judgements]
  rw [violations_eq, warnings_eq, ← judged]
  simp only [List.flatMap_map, and_self]

end Examine

/-- Reports agree on their findings and on the files that were looked at. -/
structure Agrees (report again : Report) : Prop where
  violations : again.violations = report.violations
  warnings : again.warnings = report.warnings
  filesScoped : again.filesScoped = report.filesScoped
  origin : again.origin = report.origin

/-- Runs on states that are alike agree. -/
theorem agrees_examine
    {plan otherPlan : Plan}
    {settings : Settings}
    {surroundings others : Surroundings}
    (timely : plan.IsTimely settings surroundings.now)
    (otherTimely : otherPlan.IsTimely settings others.now)
    (clock : others.now = surroundings.now)
    {tree other : Tree}
    (alike : Tree.Alike tree other)
    {selection : Selection}
    (hides : selection.exclusion.HidesState)
    (options : Options)
    (guard otherGuard : Lock.Guard) :
    Agrees (examine plan selection options surroundings guard tree)
      (examine otherPlan selection options others otherGuard other) := by
  obtain ⟨files_eq, origin_eq⟩ := Scope.resolve_eq_of_alike alike hides selection.git
    selection.pushBase? options.context
  have elsewhere : ∀ path ∈ (Scope.resolve tree selection.exclusion selection.git
      selection.pushBase? options.context).files.paths, ∀ names, tree.resolve path = .ok names →
        ∀ name, ¬[".qgate", name] <+: names :=
    fun path member names resolved =>
      Scope.not_prefix_of_keeps hides (Scope.keeps_of_mem_resolve member) resolved
  have judged :
      judgement settings options.context others.now other
          (Scope.resolve other selection.exclusion selection.git selection.pushBase?
            options.context).files =
        judgement settings options.context surroundings.now tree
          (Scope.resolve tree selection.exclusion selection.git selection.pushBase?
            options.context).files := by
    funext gate
    rw [judgement, judgement, files_eq, clock, Policy.load_eq_of_alike alike,
      Gate.scan_eq_of_alike alike gate settings surroundings.now elsewhere]
  obtain ⟨violations_eq, warnings_eq⟩ := findings_examine timely selection options guard tree
  obtain ⟨otherViolations, otherWarnings⟩ :=
    findings_examine otherTimely selection options otherGuard other
  refine ⟨?_, ?_, ?_, origin_eq⟩
  · rw [violations_eq, otherViolations, judged]
  · rw [warnings_eq, otherWarnings, judged]
  · exact congrArg FileSet.size files_eq

/-! ## The state after a run -/

section Success

variable {plan : Plan} {selection : Selection} {options : Options} {surroundings : Surroundings}
  {tree : Tree} {report : Report}

/-- A run without a summary that brings back a report: it had the lock, and it leaves the report and
no marker. -/
theorem exists_of_success
    (proper : (Lock.Marker.mk surroundings.process surroundings.now).IsProper)
    (noSummary : surroundings.summaryTarget? = none)
    (success : (perform plan selection options surroundings tree).result = .ok report) :
    ∃ guard held, start options surroundings tree = (.ok guard, held) ∧
      held.node? [".qgate", "report.json"] ≠ some .folder ∧
      report = examine plan selection options surroundings guard held ∧
      (perform plan selection options surroundings tree).tree =
        (afterReport report held).without [".qgate", "run.lock"] := by
  generalize run : start options surroundings tree = outcome
  obtain ⟨result, held⟩ := outcome
  cases result with
  | error failure =>
    rw [perform_of_refused plan selection run] at success
    cases success
  | ok guard =>
    have heldBy := heldBy_of_start proper run
    have trace_eq := perform_of_taken plan selection run
    dsimp only at trace_eq
    rw [trace_eq, noSummary] at success ⊢
    rcases deliver_cases none (examine plan selection options surroundings guard held) heldBy with
      ⟨left, free, released, -, returned⟩ | ⟨-, _, failed⟩
    · rw [returned] at success ⊢
      cases success
      rw [appendSummary, (heldBy_afterReport _ heldBy).release_eq] at released
      cases released
      exact ⟨guard, held, rfl, free, rfl, rfl⟩
    · rw [failed] at success
      cases success

/-- A run without a summary edits nothing but the files that runs write. -/
theorem edited_afterReport
    {held : Tree}
    (edited : Tree.Edited Lock.fileNames tree held)
    (report : Report) :
    Tree.Edited stateFiles tree ((afterReport report held).without [".qgate", "run.lock"]) :=
  ((edited.mono (List.subset_cons_self _ _)).written _ (by decide)).removed (by decide)

/-- The next run gets the lock, and it finds a state alike to the one that the run before has
found. -/
theorem exists_start_again
    {held : Tree}
    {guard : Lock.Guard}
    (proper : (Lock.Marker.mk surroundings.process surroundings.now).IsProper)
    (taken : start options surroundings tree = (.ok guard, held))
    (free : held.node? [".qgate", "report.json"] ≠ some .folder)
    (report : Report)
    (next : Surroundings) :
    ∃ nextGuard again,
      start options next ((afterReport report held).without [".qgate", "run.lock"]) =
          (.ok nextGuard, again) ∧
        Tree.Alike held again := by
  obtain ⟨-, -, ⟨directory, content, guardFile⟩, shown⟩ := heldBy_of_start proper taken
  have allFree : ∀ name ∈ stateFiles, held.node? [".qgate", name] ≠ some .folder := by
    simp only [stateFiles, Lock.fileNames, List.forall_mem_cons]
    refine ⟨free, ?_, ?_, ?_, List.forall_mem_nil _⟩
    · rw [← Lock.markerNode?, shown]
      simp
    · rw [guardFile]
      simp
    · rw [Lock.node?_draft_of_acquire taken]
      simp
  have edited : Tree.Edited stateFiles held
      ((afterReport report held).without [".qgate", "run.lock"]) := edited_afterReport .refl report
  have usable : Lock.IsUsable ((afterReport report held).without [".qgate", "run.lock"]) :=
    Lock.IsUsable.edited
      ⟨Or.inr directory, allFree _ (by decide), allFree _ (by decide)⟩ edited
  obtain ⟨nextGuard, again, retaken⟩ : ∃ nextGuard again,
      start options next ((afterReport report held).without [".qgate", "run.lock"]) =
        (.ok nextGuard, again) :=
    usable.exists_acquire (Or.inl (Tree.node?_without_self _ (by simp)))
  refine ⟨nextGuard, again, retaken, .of_edited (edited.trans ?_) directory allFree⟩
  exact (edited_start retaken).mono (List.subset_cons_self _ _)

end Success

/-- A run that brings back a report can be repeated at once, and the second report agrees with the
first one.  Everything that the first run changes is in the state directory, and from there no
settings bring a path into scope. -/
theorem perform_repeats
    {settings : Settings}
    {plan nextPlan : Plan}
    {git : Git}
    {options : Options}
    {surroundings : Surroundings}
    (next : Surroundings)
    (timely : plan.IsTimely settings surroundings.now)
    (nextTimely : nextPlan.IsTimely settings next.now)
    (clock : next.now = surroundings.now)
    (proper : (Lock.Marker.mk surroundings.process surroundings.now).IsProper)
    (nextProper : (Lock.Marker.mk next.process next.now).IsProper)
    (noSummary : surroundings.summaryTarget? = none)
    (nextNoSummary : next.summaryTarget? = none)
    {tree : Tree}
    {report : Report}
    (success : (perform plan (.ofProject tree settings.scope git) options surroundings tree).result =
      .ok report) :
    let left := (perform plan (.ofProject tree settings.scope git) options surroundings tree).tree
    (∃ again,
        (perform nextPlan (.ofProject left settings.scope git) options next left).result =
            .ok again ∧
          Agrees report again) ∧
      (∀ names, left.node? names ≠ tree.node? names →
        names = [".qgate"] ∨ ∃ name ∈ stateFiles, names = [".qgate", name]) ∧
      ∀ (tree : Tree) (settings : ScopeSettings) (git : Git) (pushBase? : Option String)
        (context : Context),
        ∀ path ∈ (Scope.resolve tree (.ofProject tree settings) git pushBase? context).files.paths,
          ∀ names, tree.resolve path = .ok names → ∀ name, ¬[".qgate", name] <+: names := by
  intro left
  obtain ⟨guard, held, taken, free, report_eq, left_eq⟩ :=
    exists_of_success proper noSummary success
  have left_eq : left = (afterReport report held).without [".qgate", "run.lock"] := left_eq
  have edited := edited_afterReport (edited_start taken) report
  rw [← left_eq] at edited
  refine ⟨?_, ?_, ?_⟩
  · obtain ⟨nextGuard, again, retaken, alike⟩ := exists_start_again proper taken free report next
    rw [← left_eq] at retaken
    have selection_eq : Selection.ofProject left settings.scope git =
        .ofProject tree settings.scope git := by
      rw [Selection.ofProject, Selection.ofProject, Scope.Exclusion.ofProject_eq_of_edited edited]
    have nextFree : again.node? [".qgate", "report.json"] ≠ some .folder :=
      alike.otherFree _ (by decide)
    rw [selection_eq, perform_of_taken nextPlan _ retaken, nextNoSummary]
    rcases deliver_cases none (examine nextPlan (.ofProject tree settings.scope git) options next
      nextGuard again) (heldBy_of_start nextProper retaken) with
        ⟨_, -, -, -, returned⟩ | ⟨obstructed, -⟩
    · refine ⟨_, by rw [returned], ?_⟩
      rw [report_eq]
      exact agrees_examine timely nextTimely clock alike
        (Scope.Exclusion.hidesState_ofProject tree settings.scope) options guard nextGuard
    · exact absurd obstructed nextFree
  · intro names changed
    by_contra elsewhere
    rw [not_or] at elsewhere
    exact changed (edited.node?_eq elsewhere.1 fun name member same =>
      elsewhere.2 ⟨name, member, same⟩)
  · intro tree settings git pushBase? context path member names resolved
    exact Scope.not_prefix_of_keeps (Scope.Exclusion.hidesState_ofProject tree settings)
      (Scope.keeps_of_mem_resolve member) resolved

/-- Git lists the report of the runs among the files of a project.  The first run finds a banned
name, and the second run agrees. -/
example :
    let settings : Settings := {}
    let options : Options := { context := .ci, gates := [.naming] }
    let surroundings : Surroundings := ⟨7, ⟨⟨2026, 5, 4⟩, 43200, 0⟩, "first", none⟩
    let next : Surroundings := ⟨8, ⟨⟨2026, 5, 4⟩, 43200, 0⟩, "second", none⟩
    let plan := Plan.standard settings surroundings.now
    let git : Git :=
      { Git.missing with isAvailable := true, tracked := .ok ["a_v2.rs", ".qgate/report.json"] }
    let tree : Tree := ⟨"/project", [(["a_v2.rs"], .file (.text ""))]⟩
    let selection (tree : Tree) := Selection.ofProject tree settings.scope git
    let first := perform plan (selection tree) options surroundings tree
    let second := perform plan (selection first.tree) options next first.tree
    [first, second].map (fun trace => trace.result.toOption.map fun report =>
        (report.violations.length, report.filesScoped)) =
      [some (1, 1), some (1, 1)] := by
  decide +kernel

end Run
end QualityGate
