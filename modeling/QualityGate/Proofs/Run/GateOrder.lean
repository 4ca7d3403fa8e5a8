import QualityGate.Proofs.Report.Stability
import QualityGate.Proofs.Run.Conservation

/-!
# The order of gates does not matter

Gates that are selected in another order bring the same report: the same violations, warnings and
lines, item by item.  Findings may tie in the order of reports, so this rests on the stability of
the sort and on findings that carry the gate of their detector.  What may differ is the order of the
remarks of gates, how long the gates took, and the number under which a crash is reported, since
tasks are numbered in the order of the selection.
-/

namespace QualityGate

/-- A line of a report without the time that the gate took. -/
def GateReport.untimed (line : GateReport) : GateReport :=
  { line with milliseconds := 0 }

namespace Run

/-! ## Reports that say the same -/

/-- The message of a gate whose task crashed, with the number of the task. -/
def crashMessage (number : Nat) (message : String) : String :=
  "gate task panicked: task " ++ Text.decimal number ++ " panicked with message \"" ++ message ++
    "\""

/-- Messages are equal, or they tell of the same crash under two numbers. -/
inductive SameMessage : String → String → Prop where
  | same (message : String) : SameMessage message message
  | crash (number other : Nat) (message : String) :
      SameMessage ("Gate failed to run: " ++ crashMessage number message)
        ("Gate failed to run: " ++ crashMessage other message)

/-- Findings differ at most in the number of a crash. -/
def SameFinding (first second : Classified) : Prop :=
  ∃ message, SameMessage first.finding.message message ∧
    second = { first with finding := { first.finding with message := message } }

/-- Lines differ at most in the number of a crash and in the time that the gate took. -/
def SameLine (first second : GateReport) : Prop :=
  ∃ error?, Option.Rel SameMessage first.error? error? ∧
    second.untimed = { first.untimed with error? := error? }

/-- Reports on the same gates, selected in two orders. -/
structure Rearranged (report again : Report) : Prop where
  violations : List.Forall₂ SameFinding report.violations again.violations
  warnings : again.warnings = report.warnings
  gates : List.Forall₂ SameLine report.gates again.gates
  enforcement : again.enforcement = report.enforcement
  passed : again.passed = report.passed
  /-- The remarks of the gates come behind all others, in the order of the selection. -/
  notices : ∃ shared remarks others,
    report.notices = shared ++ remarks ∧ again.notices = shared ++ others ∧ remarks.Perm others
  context : again.context = report.context
  origin : again.origin = report.origin
  filesScoped : again.filesScoped = report.filesScoped

theorem SameFinding.refl (classified : Classified) : SameFinding classified classified :=
  ⟨classified.finding.message, .same _, rfl⟩

theorem SameLine.of_untimed
    {first second : GateReport}
    (equal : second.untimed = first.untimed) :
    SameLine first second := by
  refine ⟨first.error?, ?_, equal⟩
  cases first.error? with
  | none => exact .none
  | some message => exact .some (.same message)

/-! ## Runs of one gate -/

/-- What a gate found carries that gate. -/
def GateRun.FindsOwn (run : GateRun) : Prop :=
  ∀ result, run.outcome = .completed result → ∀ finding ∈ result.findings, finding.gate = run.gate

/-- The runs of a gate all end in one way. -/
def IsSteady (runs : List GateRun) (gate : Gate) : Prop :=
  ∃ outcome, ∀ run ∈ runs, run.gate = gate → run.outcome = outcome

/-- The runs of a gate all crash in one way, each under a number of its own. -/
def Crashes (runs : List GateRun) (gate : Gate) : Prop :=
  ∃ message, ∀ run ∈ runs, run.gate = gate →
    ∃ number, run.outcome = .failed (crashMessage number message)

section Judge

variable (bench : Bench)

/-- The verdict on a gate depends on how it ended, and not on the time that it took. -/
theorem judge_congr
    {run other : GateRun}
    (gate_eq : other.gate = run.gate)
    (outcome_eq : other.outcome = run.outcome) :
    (bench.judge other).classification = (bench.judge run).classification ∧
      (bench.judge other).line.untimed = (bench.judge run).line.untimed ∧
      (bench.judge other).notices = (bench.judge run).notices := by
  obtain ⟨gate, milliseconds, outcome⟩ := run
  obtain ⟨otherGate, otherMilliseconds, otherOutcome⟩ := other
  cases gate_eq
  cases outcome_eq
  cases outcome <;> exact ⟨rfl, rfl, rfl⟩

/-- The finding on a gate that failed, by its message. -/
def failureFinding (gate : Gate) (message : String) : Finding :=
  ((Finding.ofFile gate "GATE_ERROR" message ".").withSeverity .error).withSuggestion
    "Re-run with --verbose; raise the gate timeout if the scope is large"

theorem judge_of_failed
    {run : GateRun}
    {message : String}
    (failed : run.outcome = .failed message) :
    bench.judge run =
      bench.judgeProblem run .error
        (failureFinding run.gate ("Gate failed to run: " ++ message)) := by
  have problem : run.problem? =
      some (failureFinding run.gate ("Gate failed to run: " ++ message)) := by
    rw [GateRun.problem?, failed]
    rfl
  rw [Bench.judge, failed]
  dsimp only
  rw [problem]
  rfl

/-- Failures of one gate with messages that tell the same. -/
theorem judgeProblem_of_sameMessage
    {run other : GateRun}
    (gate_eq : other.gate = run.gate)
    {message otherMessage : String}
    (same : SameMessage message otherMessage) :
    SameFinding ⟨failureFinding run.gate message, bench.enforcement.level run.gate, none⟩
        ⟨failureFinding other.gate otherMessage, bench.enforcement.level other.gate, none⟩ ∧
      SameLine (bench.judgeProblem run .error (failureFinding run.gate message)).line
        (bench.judgeProblem other .error (failureFinding other.gate otherMessage)).line := by
  rw [gate_eq]
  refine ⟨⟨otherMessage, same, rfl⟩, some otherMessage, .some same, ?_⟩
  unfold Bench.judgeProblem Verdict.ofFindings GateReport.untimed
  dsimp only
  rw [gate_eq]
  rfl

/-- Everything in the verdict on a gate carries that gate. -/
theorem gate_of_mem_judge
    {run : GateRun}
    (own : run.FindsOwn)
    {classified : Classified}
    (member : classified ∈ (bench.judge run).classification.violations ++
      (bench.judge run).classification.warnings) :
    classified.gate = run.gate := by
  have contributed : classified.finding ∈ run.contribution := by
    have listed := (bench.findings_judge_perm run).mem_iff.mp
      (List.mem_map_of_mem (f := fun classified : Classified =>
        (classified.finding, classified.level)) member)
    obtain ⟨finding, isContributed, equal⟩ := List.mem_map.mp listed
    rwa [← (Prod.mk.inj equal).1]
  rcases run.completed_or_problem with ⟨result, completed, -, eq⟩ | ⟨problem, has, eq⟩
  · rw [eq] at contributed
    exact own result completed _ contributed
  · rw [eq, List.mem_singleton] at contributed
    obtain ⟨told, -, rfl⟩ := Option.map_eq_some_iff.mp has
    exact congrArg Finding.gate contributed

end Judge

/-! ## The lists of reports -/

section Lists

variable {bench : Bench} {runs others : List GateRun}

/-- One of the two lists of a classification. -/
inductive Side where
  | violations
  | warnings

/-- The list of a classification. -/
def Side.of : Side → Classification → List Classified
  | .violations, classification => classification.violations
  | .warnings, classification => classification.warnings

/-- What the runs of gates contribute to a list of the report. -/
def gathered (bench : Bench) (side : Side) (runs : List GateRun) : List Classified :=
  runs.flatMap fun run => side.of (bench.judge run).classification

/-- Selections that are permutations of each other run every gate equally often. -/
theorem length_part
    (perm : (runs.map GateRun.gate).Perm (others.map GateRun.gate))
    (gate : Gate) :
    (Gate.part GateRun.gate gate runs).length = (Gate.part GateRun.gate gate others).length := by
  have count := perm.count_eq gate
  rwa [List.count_eq_length_filter, List.count_eq_length_filter, List.filter_map, List.filter_map,
    List.length_map, List.length_map] at count

/-- The part of a list for a gate comes from the runs of that gate. -/
theorem part_gathered
    (own : ∀ run ∈ runs, run.FindsOwn)
    (side : Side)
    (gate : Gate) :
    Gate.part Classified.gate gate
        (gathered bench side runs) =
      gathered bench side (Gate.part GateRun.gate gate runs) := by
  induction runs with
  | nil => rfl
  | cons run rest inductionHypothesis =>
    obtain ⟨first, following⟩ := List.forall_mem_cons.mp own
    have carried : ∀ classified ∈ side.of (bench.judge run).classification,
        classified.gate = run.gate := by
      intro classified member
      refine gate_of_mem_judge bench first (List.mem_append.mpr ?_)
      cases side with
      | violations => exact Or.inl member
      | warnings => exact Or.inr member
    have split : Gate.part Classified.gate gate
        (gathered bench side (run :: rest)) =
          (side.of (bench.judge run).classification).filter
              (fun classified => classified.gate == gate) ++
            gathered bench side (Gate.part GateRun.gate gate rest) := by
      rw [← inductionHypothesis following]
      exact List.filter_append ..
    rw [split]
    by_cases isGate : run.gate = gate
    · rw [List.filter_eq_self.mpr (fun classified member => by
          simpa [carried classified member] using isGate),
        Gate.part_cons_of_eq isGate]
      rfl
    · rw [List.filter_eq_nil_iff.mpr (fun classified member => by
          simpa [carried classified member] using isGate),
        Gate.part_cons_of_ne isGate]
      rfl

/-- Runs of one gate that end in one way contribute the same. -/
theorem map_part_eq
    {α : Type}
    (view : Verdict → α)
    (congr : ∀ run other : GateRun, other.gate = run.gate → other.outcome = run.outcome →
      view (bench.judge other) = view (bench.judge run))
    (perm : (runs.map GateRun.gate).Perm (others.map GateRun.gate))
    {gate : Gate}
    (steady : IsSteady (runs ++ others) gate) :
    (Gate.part GateRun.gate gate others).map (fun run => view (bench.judge run)) =
      (Gate.part GateRun.gate gate runs).map fun run => view (bench.judge run) := by
  obtain ⟨outcome, ends⟩ := steady
  apply List.ext_getElem
  · simpa using (length_part perm gate).symm
  · intro index inside otherInside
    rw [List.length_map] at inside otherInside
    obtain ⟨isOther, otherGate⟩ := Gate.mem_part_iff.mp (List.getElem_mem inside)
    obtain ⟨isRun, gate_eq⟩ := Gate.mem_part_iff.mp (List.getElem_mem otherInside)
    rw [List.getElem_map, List.getElem_map]
    refine congr _ _ (otherGate.trans gate_eq.symm) ?_
    rw [ends _ (List.mem_append_left _ isRun) gate_eq,
      ends _ (List.mem_append_right _ isOther) otherGate]

/-- The violation that a gate crashed. -/
def crashViolation (bench : Bench) (gate : Gate) (message : String) (number : Nat) : Classified :=
  ⟨failureFinding gate ("Gate failed to run: " ++ crashMessage number message),
    bench.enforcement.level gate, none⟩

/-- Every run of a gate that crashes contributes one violation. -/
theorem gathered_of_crashes
    (bench : Bench)
    {gate : Gate}
    {message : String}
    {runs : List GateRun}
    (crash : ∀ run ∈ runs, run.gate = gate ∧
      ∃ number, run.outcome = .failed (crashMessage number message)) :
    ∃ numbers : List Nat, numbers.length = runs.length ∧
      gathered bench .violations runs = numbers.map (crashViolation bench gate message) ∧
      gathered bench .warnings runs = [] := by
  induction runs with
  | nil => exact ⟨[], rfl, rfl, rfl⟩
  | cons run rest inductionHypothesis =>
    obtain ⟨⟨gate_eq, number, failed⟩, following⟩ := List.forall_mem_cons.mp crash
    obtain ⟨numbers, length_eq, violations_eq, warnings_eq⟩ := inductionHypothesis following
    have judged := judge_of_failed bench failed
    refine ⟨number :: numbers, by simp [length_eq], ?_, ?_⟩
    · rw [List.map_cons, ← violations_eq, crashViolation, ← gate_eq, gathered, List.flatMap_cons,
        judged]
      rfl
    · rw [← warnings_eq, gathered, List.flatMap_cons, judged]
      rfl

/-- Lists of one length correspond if any two of their items do. -/
theorem forall₂_of_forall
    {α β : Type}
    {same : α → β → Prop}
    {items : List α}
    {others : List β}
    (length_eq : items.length = others.length)
    (all : ∀ item ∈ items, ∀ other ∈ others, same item other) :
    List.Forall₂ same items others := by
  refine List.forall₂_iff_zip.mpr ⟨length_eq, fun member => ?_⟩
  obtain ⟨isItem, isOther⟩ := List.of_mem_zip member
  exact all _ isItem _ isOther

section Parts

variable
  (own : ∀ run ∈ runs ++ others, run.FindsOwn)
  (perm : (runs.map GateRun.gate).Perm (others.map GateRun.gate))
  {gate : Gate}

/-- The lines for a gate correspond, however its runs end. -/
theorem forall₂_part_lines
    (perm : (runs.map GateRun.gate).Perm (others.map GateRun.gate))
    {same : GateReport → GateReport → Prop}
    {gate : Gate}
    (lines : ∀ run ∈ runs, ∀ other ∈ others, run.gate = gate → other.gate = gate →
      same (bench.judge run).line (bench.judge other).line) :
    List.Forall₂ same
      (Gate.part GateReport.gate gate
        (GateReport.sorted (runs.map fun run => (bench.judge run).line)))
      (Gate.part GateReport.gate gate
        (GateReport.sorted (others.map fun run => (bench.judge run).line))) := by
  have part_lines (runs : List GateRun) :
      Gate.part GateReport.gate gate
          (GateReport.sorted (runs.map fun run => (bench.judge run).line)) =
        (Gate.part GateRun.gate gate runs).map fun run => (bench.judge run).line := by
    rw [GateReport.part_sorted, Gate.part, Gate.part, List.filter_map]
    simp only [Function.comp_def, (bench.describes_judge _).gate]
  rw [part_lines, part_lines]
  refine forall₂_of_forall (by simpa using length_part perm gate) ?_
  simp only [List.forall_mem_map]
  intro run isRun other isOther
  obtain ⟨isRun, gate_eq⟩ := Gate.mem_part_iff.mp isRun
  obtain ⟨isOther, otherGate_eq⟩ := Gate.mem_part_iff.mp isOther
  exact lines run isRun other isOther gate_eq otherGate_eq

include own perm

/-- The parts of a sorted list for a gate whose runs end in one way. -/
theorem part_sorted_eq
    (steady : IsSteady (runs ++ others) gate)
    (side : Side) :
    Gate.part Classified.gate gate (Classified.sorted (gathered bench side others)) =
      Gate.part Classified.gate gate (Classified.sorted (gathered bench side runs)) := by
  obtain ⟨ownRuns, ownOthers⟩ := List.forall_mem_append.mp own
  rw [Classified.part_sorted, Classified.part_sorted, part_gathered ownRuns,
    part_gathered ownOthers, gathered, gathered, List.flatMap_def, List.flatMap_def,
    map_part_eq (fun verdict => side.of verdict.classification) ?_ perm steady]
  intro run other gate_eq outcome_eq
  rw [(judge_congr bench gate_eq outcome_eq).1]

/-- The parts of the two lists for a gate whose runs crash. -/
theorem parts_of_crashes
    (crashes : Crashes (runs ++ others) gate) :
    List.Forall₂ SameFinding
        (Gate.part Classified.gate gate (Classified.sorted (gathered bench .violations runs)))
        (Gate.part Classified.gate gate
          (Classified.sorted (gathered bench .violations others))) ∧
      Gate.part Classified.gate gate (Classified.sorted (gathered bench .warnings others)) =
        Gate.part Classified.gate gate (Classified.sorted (gathered bench .warnings runs)) := by
  obtain ⟨ownRuns, ownOthers⟩ := List.forall_mem_append.mp own
  obtain ⟨message, ends⟩ := crashes
  have crash {some : List GateRun} (within : ∀ run ∈ some, run ∈ runs ++ others) :
      ∀ run ∈ Gate.part GateRun.gate gate some, run.gate = gate ∧
        ∃ number, run.outcome = .failed (crashMessage number message) := by
    intro run member
    obtain ⟨isRun, gate_eq⟩ := Gate.mem_part_iff.mp member
    exact ⟨gate_eq, ends run (within run isRun) gate_eq⟩
  obtain ⟨numbers, length_eq, violations_eq, warnings_eq⟩ :=
    gathered_of_crashes bench (crash fun run => List.mem_append_left others)
  obtain ⟨otherNumbers, otherLength, otherViolations, otherWarnings⟩ :=
    gathered_of_crashes bench (crash fun run => List.mem_append_right runs)
  simp only [Classified.part_sorted, part_gathered ownRuns, part_gathered ownOthers,
    violations_eq, warnings_eq, otherViolations, otherWarnings, and_true]
  have perms := Classified.sorted_perm (numbers.map (crashViolation bench gate message))
  have otherPerms := Classified.sorted_perm (otherNumbers.map (crashViolation bench gate message))
  refine forall₂_of_forall ?_ fun violation member other isOther => ?_
  · rw [perms.length_eq, otherPerms.length_eq, List.length_map, List.length_map, length_eq,
      otherLength, length_part perm gate]
  · obtain ⟨number, -, rfl⟩ := List.mem_map.mp (perms.mem_iff.mp member)
    obtain ⟨otherNumber, -, rfl⟩ := List.mem_map.mp (otherPerms.mem_iff.mp isOther)
    exact ⟨_, .crash number otherNumber message, rfl⟩

end Parts

end Lists

/-! ## Reports -/

section Reports

variable (heading : Heading) (bench : Bench) {runs others : List GateRun}
  (own : ∀ run ∈ runs ++ others, run.FindsOwn)
  (perm : (runs.map GateRun.gate).Perm (others.map GateRun.gate))

theorem violations_reportOn (gates : List Gate) (runs : List GateRun) :
    (reportOn heading bench gates runs).violations =
      Classified.sorted (gathered bench .violations runs) := by
  simp only [reportOn, assemble, gathered, Side.of, List.flatMap_map]

theorem warnings_reportOn (gates : List Gate) (runs : List GateRun) :
    (reportOn heading bench gates runs).warnings =
      Classified.sorted (gathered bench .warnings runs) := by
  simp only [reportOn, assemble, gathered, Side.of, List.flatMap_map]

theorem gates_reportOn (gates : List Gate) (runs : List GateRun) :
    (reportOn heading bench gates runs).gates =
      GateReport.sorted (runs.map fun run => (bench.judge run).line) := by
  simp only [reportOn, assemble, List.map_map]
  rfl

/-- Sorted findings correspond if their parts for the gates do. -/
theorem forall₂_sorted
    {same : Classified → Classified → Prop}
    {findings otherFindings : List Classified}
    (parts : ∀ gate, List.Forall₂ same
      (Gate.part Classified.gate gate (Classified.sorted findings))
      (Gate.part Classified.gate gate (Classified.sorted otherFindings))) :
    List.Forall₂ same (Classified.sorted findings) (Classified.sorted otherFindings) :=
  Gate.forall₂_of_parts
    ((Classified.pairwise_sorted findings).imp Classified.rank_le_of_precedes)
    ((Classified.pairwise_sorted otherFindings).imp Classified.rank_le_of_precedes) parts

/-- Sorted findings are equal if their parts for the gates are. -/
theorem sorted_eq_of_parts
    {findings otherFindings : List Classified}
    (parts : ∀ gate, Gate.part Classified.gate gate (Classified.sorted findings) =
      Gate.part Classified.gate gate (Classified.sorted otherFindings)) :
    Classified.sorted findings = Classified.sorted otherFindings := by
  rw [← List.forall₂_eq_eq_eq]
  refine forall₂_sorted fun gate => ?_
  rw [List.forall₂_eq_eq_eq]
  exact parts gate

include perm

/-- The remarks of the gates are the same, in another order. -/
theorem notices_perm
    (alike : ∀ gate, IsSteady (runs ++ others) gate ∨ Crashes (runs ++ others) gate) :
    (runs.flatMap fun run => (bench.judge run).notices).Perm
      (others.flatMap fun run => (bench.judge run).notices) := by
  have single : ∀ gate, ∃ remarks, ∀ run ∈ runs ++ others, run.gate = gate →
      (bench.judge run).notices = remarks := by
    intro gate
    rcases alike gate with ⟨outcome, ends⟩ | ⟨message, ends⟩
    · refine ⟨(bench.judge ⟨gate, 0, outcome⟩).notices, fun run isRun gate_eq => ?_⟩
      exact (judge_congr bench gate_eq (ends run isRun gate_eq)).2.2
    · refine ⟨[], fun run isRun gate_eq => ?_⟩
      obtain ⟨number, failed⟩ := ends run isRun gate_eq
      rw [judge_of_failed bench failed]
      rfl
  choose remarks told using single
  have ofGates {some : List GateRun} (within : ∀ run ∈ some, run ∈ runs ++ others) :
      some.flatMap (fun run => (bench.judge run).notices) =
        (some.map GateRun.gate).flatMap remarks := by
    rw [List.flatMap_map]
    exact List.flatMap_congr fun run member => told run.gate run (within run member) rfl
  rw [ofGates fun run => List.mem_append_left _, ofGates fun run => List.mem_append_right _]
  exact perm.flatMap_right remarks

/-- The lines correspond, gate by gate. -/
theorem forall₂_lines
    (alike : ∀ gate, IsSteady (runs ++ others) gate ∨ Crashes (runs ++ others) gate) :
    List.Forall₂ SameLine (GateReport.sorted (runs.map fun run => (bench.judge run).line))
      (GateReport.sorted (others.map fun run => (bench.judge run).line)) := by
  refine Gate.forall₂_of_parts (GateReport.pairwise_sorted _) (GateReport.pairwise_sorted _)
    fun gate => forall₂_part_lines perm fun run isRun other isOther gate_eq otherGate_eq => ?_
  have isRun := List.mem_append_left others isRun
  have isOther := List.mem_append_right runs isOther
  have same_gate : other.gate = run.gate := otherGate_eq.trans gate_eq.symm
  rcases alike gate with ⟨outcome, ends⟩ | ⟨message, ends⟩
  · refine .of_untimed (judge_congr bench same_gate ?_).2.1
    rw [ends run isRun gate_eq, ends other isOther otherGate_eq]
  · obtain ⟨number, failed⟩ := ends run isRun gate_eq
    obtain ⟨otherNumber, otherFailed⟩ := ends other isOther otherGate_eq
    rw [judge_of_failed bench failed, judge_of_failed bench otherFailed]
    exact (judgeProblem_of_sameMessage bench same_gate (.crash number otherNumber message)).2

include own

/-- The violations correspond, gate by gate. -/
theorem forall₂_violations
    (alike : ∀ gate, IsSteady (runs ++ others) gate ∨ Crashes (runs ++ others) gate) :
    List.Forall₂ SameFinding (Classified.sorted (gathered bench .violations runs))
      (Classified.sorted (gathered bench .violations others)) := by
  refine forall₂_sorted fun gate => ?_
  rcases alike gate with steady | crashes
  · rw [part_sorted_eq own perm steady]
    exact List.forall₂_same.mpr fun classified _ => .refl classified
  · exact (parts_of_crashes own perm crashes).1

theorem warnings_eq
    (alike : ∀ gate, IsSteady (runs ++ others) gate ∨ Crashes (runs ++ others) gate) :
    Classified.sorted (gathered bench .warnings others) =
      Classified.sorted (gathered bench .warnings runs) := by
  refine sorted_eq_of_parts fun gate => ?_
  rcases alike gate with steady | crashes
  · exact part_sorted_eq own perm steady .warnings
  · exact (parts_of_crashes own perm crashes).2

/-- Reports on runs that end alike are the same up to the numbers of crashes. -/
theorem rearranged_reportOn
    (alike : ∀ gate, IsSteady (runs ++ others) gate ∨ Crashes (runs ++ others) gate) :
    Rearranged (reportOn heading bench (runs.map GateRun.gate) runs)
      (reportOn heading bench (others.map GateRun.gate) others) := by
  have violations := forall₂_violations bench own perm alike
  refine ⟨?_, ?_, ?_, ?_, ?_, ?_, rfl, rfl, rfl⟩
  · rw [violations_reportOn, violations_reportOn]
    exact violations
  · rw [warnings_reportOn, warnings_reportOn]
    exact warnings_eq bench own perm alike
  · rw [gates_reportOn, gates_reportOn]
    exact forall₂_lines bench perm alike
  · have selected : Gate.canonical (others.map GateRun.gate) =
        Gate.canonical (runs.map GateRun.gate) := by
      refine List.filter_congr fun gate _ => ?_
      rw [Bool.eq_iff_iff, List.contains_iff_mem, List.contains_iff_mem]
      exact perm.mem_iff.symm
    exact congrArg (List.map fun gate => (gate, bench.enforcement.level gate)) selected
  · have passed_eq (gates : List Gate) (runs : List GateRun) :
        (reportOn heading bench gates runs).passed =
          (reportOn heading bench gates runs).violations.isEmpty := rfl
    rw [passed_eq, passed_eq, violations_reportOn, violations_reportOn, Bool.eq_iff_iff,
      List.isEmpty_iff_length_eq_zero, List.isEmpty_iff_length_eq_zero, violations.length_eq]
  · refine ⟨heading.notices, _, _, rfl, rfl, ?_⟩
    rw [List.flatMap_map, List.flatMap_map]
    exact notices_perm bench perm alike

/-- Reports on runs that end in one way for each gate have the same violations, and the same lines
apart from times. -/
theorem reportOn_eq_of_steady
    (steady : ∀ gate, IsSteady (runs ++ others) gate) :
    let report := reportOn heading bench (runs.map GateRun.gate) runs
    let again := reportOn heading bench (others.map GateRun.gate) others
    again.violations = report.violations ∧
      again.gates.map GateReport.untimed = report.gates.map GateReport.untimed := by
  dsimp only
  rw [violations_reportOn, violations_reportOn, gates_reportOn, gates_reportOn]
  constructor
  · exact sorted_eq_of_parts fun gate => part_sorted_eq own perm (steady gate) .violations
  · symm
    rw [← List.forall₂_eq_eq_eq, List.forall₂_map_left_iff, List.forall₂_map_right_iff]
    refine Gate.forall₂_of_parts (GateReport.pairwise_sorted _) (GateReport.pairwise_sorted _)
      fun gate => forall₂_part_lines perm fun run isRun other isOther gate_eq otherGate_eq => ?_
    obtain ⟨outcome, ends⟩ := steady gate
    refine (judge_congr bench (gate_eq.trans otherGate_eq.symm) ?_).2.1
    rw [ends run (List.mem_append_left _ isRun) gate_eq,
      ends other (List.mem_append_right _ isOther) otherGate_eq]

end Reports

/-! ## Whole runs -/

/-- The work of a detector ends in one way whatever its number is, or it crashes. -/
theorem Attempt.outcome_cases
    (attempt : Attempt)
    (limit : Nat) :
    (∃ outcome, ∀ number, attempt.outcome number limit = outcome) ∨
      ∃ message, ∀ number,
        attempt.outcome number limit = .failed (crashMessage number message) := by
  unfold Attempt.outcome
  split
  · cases attempt.ending with
    | found result => exact Or.inl ⟨_, fun _ => rfl⟩
    | failed message => exact Or.inl ⟨_, fun _ => rfl⟩
    | crashed message => exact Or.inr ⟨message, fun _ => rfl⟩
  · exact Or.inl ⟨_, fun _ => rfl⟩

/-- The files of a run. -/
def filesOn (selection : Selection) (options : Options) (tree : Tree) : FileSet :=
  (Scope.resolve tree selection.exclusion selection.git selection.pushBase? options.context).files

/-- Two plans with the same settings run some gates with the same outcomes, and what a gate finds
carries that gate.  How long the gates take may differ. -/
structure SameEndings
    (plan otherPlan : Plan)
    (gates : List Gate)
    (tree : Tree)
    (files : FileSet) : Prop where
  settings : otherPlan.settings = plan.settings
  outcome : ∀ gate ∈ gates, ∀ number,
    (otherPlan.runGate tree files number gate).outcome =
      (plan.runGate tree files number gate).outcome
  own : ∀ gate ∈ gates, ∀ number, (plan.runGate tree files number gate).FindsOwn

section Runs

variable {plan otherPlan : Plan} {tree : Tree} {files : FileSet} {gates otherGates : List Gate}

/-- A run is one of a selected gate, under a number. -/
theorem exists_of_mem_runGates
    {run : GateRun}
    (member : run ∈ plan.runGates tree files gates) :
    run.gate ∈ gates ∧ ∃ number, run = plan.runGate tree files number run.gate := by
  obtain ⟨index, inside, rfl⟩ := List.mem_mapIdx.mp member
  exact ⟨List.getElem_mem inside, index + 1, rfl⟩

variable (same : SameEndings plan otherPlan gates tree files) (perm : gates.Perm otherGates)

include same perm

/-- Runs of both plans have the outcomes of the first one. -/
theorem SameEndings.exists_outcome
    {run : GateRun}
    (member : run ∈ plan.runGates tree files gates ++ otherPlan.runGates tree files otherGates) :
    run.gate ∈ gates ∧
      ∃ number, run.outcome = (plan.runGate tree files number run.gate).outcome := by
  rcases List.mem_append.mp member with isRun | isOther
  · obtain ⟨selected, number, run_eq⟩ := exists_of_mem_runGates isRun
    exact ⟨selected, number, congrArg GateRun.outcome run_eq⟩
  · obtain ⟨selected, number, run_eq⟩ := exists_of_mem_runGates isOther
    have selected := perm.mem_iff.mpr selected
    exact ⟨selected, number,
      (congrArg GateRun.outcome run_eq).trans (same.outcome _ selected number)⟩

theorem SameEndings.findsOwn :
    ∀ run ∈ plan.runGates tree files gates ++ otherPlan.runGates tree files otherGates,
      run.FindsOwn := by
  intro run member result completed
  obtain ⟨selected, number, outcome_eq⟩ := same.exists_outcome perm member
  exact same.own run.gate selected number result (outcome_eq.symm.trans completed)

/-- A gate with one outcome ends in that way in all its runs. -/
theorem SameEndings.isSteady_of_outcome
    {gate : Gate}
    {outcome : Outcome}
    (ends : ∀ number, (plan.runGate tree files number gate).outcome = outcome) :
    IsSteady (plan.runGates tree files gates ++ otherPlan.runGates tree files otherGates)
      gate := by
  refine ⟨outcome, fun run member gate_eq => ?_⟩
  obtain ⟨-, number, outcome_eq⟩ := same.exists_outcome perm member
  rw [outcome_eq, gate_eq]
  exact ends number

/-- The runs of a gate end in one way or crash. -/
theorem SameEndings.alike (gate : Gate) :
    IsSteady (plan.runGates tree files gates ++ otherPlan.runGates tree files otherGates) gate ∨
      Crashes (plan.runGates tree files gates ++ otherPlan.runGates tree files otherGates)
        gate := by
  refine ((plan.detector gate tree files).outcome_cases (plan.limitFor gate)).imp ?_ ?_
  · rintro ⟨outcome, ends⟩
    exact same.isSteady_of_outcome perm ends
  · rintro ⟨message, ends⟩
    refine ⟨message, fun run member gate_eq => ?_⟩
    obtain ⟨-, number, outcome_eq⟩ := same.exists_outcome perm member
    refine ⟨number, ?_⟩
    rw [outcome_eq, gate_eq]
    exact ends number

/-- The runs of a gate that does not crash end in one way. -/
theorem SameEndings.isSteady
    (steady : ∀ gate ∈ gates, ∃ outcome, ∀ number,
      (plan.runGate tree files number gate).outcome = outcome)
    (gate : Gate) :
    IsSteady (plan.runGates tree files gates ++ otherPlan.runGates tree files otherGates)
      gate := by
  by_cases selected : gate ∈ gates
  · obtain ⟨outcome, ends⟩ := steady gate selected
    exact same.isSteady_of_outcome perm ends
  · refine ⟨default, fun run member gate_eq => absurd ?_ selected⟩
    rw [← gate_eq]
    exact (same.exists_outcome perm member).1

end Runs

/-- A run that has the lock returns no other report than the one on its gates. -/
theorem eq_examine_of_perform
    {plan : Plan}
    {selection : Selection}
    {options : Options}
    {surroundings : Surroundings}
    {tree held : Tree}
    {guard : Lock.Guard}
    (taken : start options surroundings tree = (.ok guard, held))
    {report : Report}
    (returned : (perform plan selection options surroundings tree).result = .ok report) :
    report = examine plan selection options surroundings guard held := by
  unfold perform at returned
  rw [taken] at returned
  exact eq_of_deliver returned

/-- Runs of plans with the same settings judge their gates in the same way, under one heading. -/
theorem exists_reportOn_eq
    {plan otherPlan : Plan}
    (settings : otherPlan.settings = plan.settings)
    (selection : Selection)
    (options : Options)
    (otherGates : List Gate)
    (surroundings : Surroundings)
    (guard : Lock.Guard)
    (tree : Tree) :
    let files := filesOn selection options tree
    let runs := plan.runGates tree files options.gates
    let others := otherPlan.runGates tree files otherGates
    ∃ heading bench,
      examine plan selection options surroundings guard tree =
          reportOn heading bench (runs.map GateRun.gate) runs ∧
        examine otherPlan selection { options with gates := otherGates } surroundings guard tree =
          reportOn heading bench (others.map GateRun.gate) others := by
  intro files runs others
  let scope := Scope.resolve tree selection.exclusion selection.git selection.pushBase?
    options.context
  let heading : Heading :=
    { runId := surroundings.runId
      timestamp := surroundings.now
      context := options.context
      origin := scope.origin
      filesScoped := scope.files.size
      notices := options.notices ++ guard.notices ++ scope.notices ++
        (Policy.load tree surroundings.now).notices }
  refine ⟨heading, benchOn plan options surroundings tree, ?_, ?_⟩
  · rw [plan.gates_runGates tree files options.gates]
    rfl
  · rw [otherPlan.gates_runGates tree files otherGates, benchOn, ← settings]
    rfl

/-- Two runs that select the same gates in two orders bring the same report up to the numbers of
crashes.  If every gate has one outcome, the violations are identical, and so are the lines apart
from times. -/
theorem perform_ignores_gate_order
    {plan otherPlan : Plan}
    (selection : Selection)
    (options : Options)
    (surroundings : Surroundings)
    {otherGates : List Gate}
    (perm : options.gates.Perm otherGates)
    {tree held : Tree}
    {guard : Lock.Guard}
    (taken : start options surroundings tree = (.ok guard, held))
    (same : SameEndings plan otherPlan options.gates held (filesOn selection options held)) :
    let others := { options with gates := otherGates }
    let report := examine plan selection options surroundings guard held
    let again := examine otherPlan selection others surroundings guard held
    Rearranged report again ∧
      ((∀ gate ∈ options.gates, ∃ outcome, ∀ number,
          (plan.runGate held (filesOn selection options held) number gate).outcome = outcome) →
        again.violations = report.violations ∧
          again.gates.map GateReport.untimed = report.gates.map GateReport.untimed) ∧
      (∀ returned, (perform plan selection options surroundings tree).result = .ok returned →
        returned = report) ∧
      ∀ returned, (perform otherPlan selection others surroundings tree).result = .ok returned →
        returned = again := by
  intro others report again
  obtain ⟨heading, bench, report_eq, again_eq⟩ := exists_reportOn_eq same.settings selection options
    otherGates surroundings guard held
  have own := same.findsOwn perm
  have selected : ((plan.runGates held (filesOn selection options held) options.gates).map
      GateRun.gate).Perm ((otherPlan.runGates held (filesOn selection options held) otherGates).map
        GateRun.gate) := by
    rw [plan.gates_runGates, otherPlan.gates_runGates]
    exact perm
  have otherTaken : start others surroundings tree = (.ok guard, held) := by
    rw [← taken, start, start]
  refine ⟨?_, fun steady => ?_, fun returned => eq_examine_of_perform taken,
    fun returned => eq_examine_of_perform otherTaken⟩
  · dsimp only [report, again, others]
    rw [report_eq, again_eq]
    exact rearranged_reportOn heading bench own selected (same.alike perm)
  · dsimp only [report, again, others]
    rw [report_eq, again_eq]
    exact reportOn_eq_of_steady heading bench own selected (same.isSteady perm steady)

/-- Detectors that take some time: one finds two things that tie in the order of reports, one fails,
and one does not end in time. -/
def tiedPlan (milliseconds : Nat) : Plan where
  settings := {}
  detector gate _ _ :=
    match gate with
    | .naming => ⟨milliseconds, .failed "boom"⟩
    | .duplication => ⟨30000, .found ⟨[], []⟩⟩
    | .hiddenTodo =>
      let tied := (Finding.ofFile .hiddenTodo "RULE" "message" "src/a.rs").atLine 1
      ⟨milliseconds, .found ⟨[tied.withSuggestion "second", tied.withSuggestion "first"], ["seen"]⟩⟩
    | _ => ⟨milliseconds, .found ⟨[], []⟩⟩
  limit? := some 200

/-- Gates with repetitions in two orders, once with slower detectors. -/
theorem perform_ignores_gate_order_of_tied_findings :
    let options : Options :=
      { context := .ci, gates := [.hiddenTodo, .naming, .hiddenTodo, .duplication] }
    let others := { options with gates := [.duplication, .hiddenTodo, .hiddenTodo, .naming] }
    let surroundings : Surroundings := ⟨7, ⟨⟨2026, 5, 4⟩, 43200, 0⟩, "run", none⟩
    let selection : Selection := ⟨.standard, .missing, none⟩
    let tree := Tree.empty "/project"
    ∃ guard held, start options surroundings tree = (.ok guard, held) ∧
      let report := examine (tiedPlan 0) selection options surroundings guard held
      let again := examine (tiedPlan 5) selection others surroundings guard held
      report.violations.length = 6 ∧
        again.violations = report.violations ∧
        again.gates.map GateReport.untimed = report.gates.map GateReport.untimed ∧
        Rearranged report again := by
  intro options others surroundings selection tree
  have taken : start options surroundings tree =
      (.ok ⟨⟨7, surroundings.now⟩, .unlocked, .held ⟨7, surroundings.now⟩, []⟩,
        (start options surroundings tree).2) :=
    Prod.ext rfl rfl
  have same (held : Tree) (files : FileSet) :
      SameEndings (tiedPlan 0) (tiedPlan 5) options.gates held files := by
    refine ⟨rfl, fun gate _ number => ?_, fun gate _ number result completed => ?_⟩
    · cases gate <;> rfl
    · cases gate <;> cases completed <;> simp [Finding.ofFile, Finding.atLine,
        Finding.withSuggestion, Plan.runGate]
  have perm : options.gates.Perm others.gates := by decide
  obtain ⟨rearranged, identical, -⟩ :=
    perform_ignores_gate_order selection options surroundings perm taken (same _ _)
  obtain ⟨violations_eq, lines_eq⟩ := identical fun gate _ => by
    cases gate <;> exact ⟨_, fun _ => rfl⟩
  refine ⟨_, _, taken, ?_, violations_eq, lines_eq, rearranged⟩
  -- sorting does not evaluate, but it keeps the number of findings
  refine (violations_perm _ (benchOn (tiedPlan 0) options surroundings _) options.gates
    (runsOn (tiedPlan 0) selection options _)).length_eq.trans ?_
  decide +kernel

end Run
end QualityGate
