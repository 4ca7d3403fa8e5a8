import QualityGate.Proofs.Detector.Places
import QualityGate.Proofs.Placeholder.SingleLine
import QualityGate.Proofs.Report.Summary
import QualityGate.Proofs.Run.GateOrder

/-!
# What the summary of a run shows

The section on violations has one row for each violation that is listed, as long as the message of
the violation has no line feed.  The messages of all gates but one never have one.  A finding about
placeholders shows texts as they were decoded from JSON, so an escaped line feed in an artifact, or
in a declaration in a comment, ends its row, and what follows stands in rows of its own.
-/

namespace QualityGate

open Text (IsSingleLine)

/-! ## Findings of a scan -/

/-- The finding is about placeholders, and a decoded text of its file has a line feed. -/
structure Finding.ShowsLineFeed (tree : Tree) (files : FileSet) (finding : Finding) : Prop where
  gate_eq : finding.gate = .placeholder
  exists_text : ∃ path ∈ files.paths, ∃ content, tree.read path = .ok content ∧
    finding.file = Location.display path ∧
    ∃ text ∈ Placeholder.shownTexts ⟨path, content⟩, ¬Text.IsSingleLine text

section Scan

variable {gate : Gate} {settings : Settings} {now : Instant} {tree : Tree} {files : FileSet}
variable (paths : ∀ path ∈ files.paths, IsSingleLine path)
variable {finding : Finding}
include paths

/-- Findings about files whose paths have no line feed have none themselves, except for those about
placeholders that show one. -/
theorem Gate.isSingleLine_or_showsLineFeed
    (member : finding ∈ (gate.scan settings now tree files).findings) :
    finding.IsSingleLine ∨ finding.ShowsLineFeed tree files := by
  have points := Gate.pointsAt_of_mem_findings member
  cases gate with
  | naming =>
    refine .inl ?_
    rcases List.mem_append.mp member with named | declared
    · obtain ⟨path, isPath, made⟩ := List.mem_filterMap.mp named
      exact Naming.isSingleLine_of_checkFileName (paths path isPath) made
    · split at declared
      · obtain ⟨source, -, made⟩ := List.mem_flatMap.mp declared
        exact Naming.isSingleLine_of_mem_checkSymbols made
      · cases declared
  | duplication =>
    refine .inl (Duplication.isSingleLine_of_mem_check (fun file isFile => ?_) member)
    obtain ⟨source, loaded, rfl⟩ := List.mem_map.mp isFile
    exact Location.isSingleLine_display (paths _ (Source.read_of_mem_load loaded).1)
  | godObject =>
    obtain ⟨source, -, made⟩ := List.mem_flatMap.mp member
    exact .inl (Size.isSingleLine_of_mem_checkFile made)
  | hiddenTodo =>
    obtain ⟨source, -, made⟩ := List.mem_flatMap.mp member
    exact .inl (HiddenTodo.isSingleLine_of_mem_analyzeWith made)
  | documentation =>
    obtain ⟨source, -, made⟩ := List.mem_flatMap.mp member
    exact .inl (Documentation.isSingleLine_of_mem_checkDocument made)
  | placeholder =>
    obtain ⟨source, loaded, made⟩ := List.mem_flatMap.mp member
    obtain ⟨isPath, read⟩ := Source.read_of_mem_load loaded
    by_cases singles : ∀ text ∈ Placeholder.shownTexts source, IsSingleLine text
    · exact .inl (Placeholder.isSingleLine_of_mem_checkFile singles made)
    · simp only [not_forall] at singles
      obtain ⟨text, isShown, broken⟩ := singles
      exact .inr ⟨points.gate_eq, source.path, isPath, source.content, read,
        (Placeholder.isWithin_of_mem_checkFile made).file_eq, text, isShown, broken⟩

end Scan

namespace Run

/-! ## Findings of a run -/

/-- If a detector ends in time, it ends with what the scan for its gate finds. -/
def Plan.IsBuiltIn (plan : Plan) (now : Instant) : Prop :=
  ∀ gate tree files,
    (plan.detector gate tree files).ending = .found (gate.scan plan.settings now tree files)

theorem Plan.isBuiltIn_standard (settings : Settings) (now : Instant) :
    (standard settings now).IsBuiltIn now :=
  fun _ _ _ => rfl

section Findings

variable {plan : Plan} {now : Instant} (builtIn : plan.IsBuiltIn now)
variable {tree : Tree} {files : FileSet}
include builtIn

/-- A gate contributes what its scan finds, or that it has run out of time. -/
theorem contribution_runGate (number : Nat) (gate : Gate) :
    (plan.runGate tree files number gate).contribution =
        (gate.scan plan.settings now tree files).findings ∨
      ∃ milliseconds limit, (plan.runGate tree files number gate).contribution =
        (GateRun.mk gate milliseconds (.timedOut limit)).problem?.toList := by
  rw [Plan.runGate, Attempt.outcome, builtIn]
  cases (plan.detector gate tree files).endsWithin (plan.limitFor gate) with
  | true => exact .inl rfl
  | false => exact .inr ⟨_, _, rfl⟩

variable (paths : ∀ path ∈ files.paths, IsSingleLine path)
include paths

/-- What the gates contribute stands in a file without line feeds in its name, and has none itself
unless it shows one. -/
theorem isSingleLine_or_showsLineFeed_of_mem_contribution
    {gates : List Gate}
    {run : GateRun}
    (isRun : run ∈ plan.runGates tree files gates)
    {finding : Finding}
    (contributed : finding ∈ run.contribution) :
    IsSingleLine finding.file ∧ (finding.IsSingleLine ∨ finding.ShowsLineFeed tree files) := by
  obtain ⟨index, inside, rfl⟩ := List.mem_mapIdx.mp isRun
  rcases contribution_runGate builtIn (index + 1) gates[index] with found | ⟨milliseconds, limit, late⟩
  · rw [found] at contributed
    obtain ⟨path, isPath, file_eq, -⟩ := (Gate.pointsAt_of_mem_findings contributed).exists_path
    rw [file_eq]
    exact ⟨Location.isSingleLine_display (paths path isPath),
      Gate.isSingleLine_or_showsLineFeed paths contributed⟩
  · rw [late] at contributed
    have message : IsSingleLine
        ("Gate did not finish within " ++ Text.decimal limit ++ "ms") := by
      simp +decide
    cases List.mem_singleton.mp contributed
    exact ⟨(by decide : IsSingleLine "."), .inl ⟨(by decide : IsSingleLine "TIMEOUT"), message⟩⟩

end Findings

/-! ## The section on violations -/

/-- How the summary of a run lists its violations. -/
structure ListsViolations (tree : Tree) (files : FileSet) (report : Report) : Prop where
  /-- Behind the overview stand a heading, the rows of no more than 50 violations, and a row that
  counts the others if there are any; only notices follow. -/
  rows : Report.rowsOf report.summary = report.overview ++
    Report.violationSection (fun violation => Report.rowsOf (Report.violationLine violation))
      report.violations ++
    (Report.sectionLines "Notices" (report.notices.map ("- " ++ ·))).flatMap Report.rowsOf ++ ["", ""]
  /-- What is shown of a violation begins as an item of a list and ends with its gate. -/
  marks : ∀ violation ∈ report.violations,
    Text.startsWith (Report.violationLine violation) "- " = true ∧
      Text.endsWith (Report.violationLine violation)
        ("(" ++ violation.finding.gate.name ++ ")") = true
  /-- It has one row exactly if the rule and the message of the violation have no line feed. -/
  single_iff : ∀ violation ∈ report.violations,
    Report.rowsOf (Report.violationLine violation) = [Report.violationLine violation] ↔
      violation.finding.IsSingleLine
  /-- Only decoded texts of placeholders have line feeds. -/
  single : ∀ violation ∈ report.violations,
    violation.finding.IsSingleLine ∨ violation.finding.ShowsLineFeed tree files
  /-- If no decoded text has a line feed, every violation that is listed has one row. -/
  unbroken : (∀ violation ∈ report.violations, ¬violation.finding.ShowsLineFeed tree files) →
    Report.violationSection (fun violation => Report.rowsOf (Report.violationLine violation))
        report.violations =
      Report.violationSection (fun violation => [Report.violationLine violation])
        report.violations

/-- The violations of a run are listed one by one, apart from those about placeholders that show
line feeds. -/
theorem listsViolations_of_accounted
    {bench : Bench}
    {gates : List Gate}
    {runs : List GateRun}
    {report : Report}
    (accounted : Accounted bench gates runs report)
    {tree : Tree}
    {files : FileSet}
    (contributed : ∀ run ∈ runs, ∀ finding ∈ run.contribution,
      IsSingleLine finding.file ∧ (finding.IsSingleLine ∨ finding.ShowsLineFeed tree files)) :
    ListsViolations tree files report := by
  have found : ∀ violation ∈ report.violations, IsSingleLine violation.finding.file ∧
      (violation.finding.IsSingleLine ∨ violation.finding.ShowsLineFeed tree files) := by
    intro violation member
    have listed := List.mem_map_of_mem (f := fun classified : Classified =>
      (classified.finding, classified.level)) (List.mem_append_left report.warnings member)
    obtain ⟨run, isRun, isFinding⟩ := List.mem_flatMap.mp (accounted.findings.mem_iff.mp listed)
    obtain ⟨finding, isContributed, equal⟩ := List.mem_map.mp isFinding
    have same : finding = violation.finding := congrArg Prod.fst equal
    rw [← same]
    exact contributed run isRun finding isContributed
  have single_iff : ∀ violation ∈ report.violations,
      Report.rowsOf (Report.violationLine violation) = [Report.violationLine violation] ↔
        violation.finding.IsSingleLine := by
    intro violation member
    rw [Report.rowsOf_eq_singleton_iff, Report.isSingleLine_violationLine_iff]
    exact ⟨fun single => ⟨single.2.1, single.2.2⟩,
      fun single => ⟨(found violation member).1, single.rule, single.message⟩⟩
  refine ⟨report.rowsOf_summary, fun violation _ =>
    Report.startsWith_endsWith_violationLine violation, single_iff,
    fun violation member => (found violation member).2, fun unbroken => ?_⟩
  have rows : (report.violations.take 50).flatMap (fun violation =>
      Report.rowsOf (Report.violationLine violation)) =
        (report.violations.take 50).flatMap fun violation => [Report.violationLine violation] := by
    refine List.flatMap_congr fun violation isListed => ?_
    have member := List.mem_of_mem_take isListed
    exact (single_iff violation member).mpr
      ((found violation member).2.resolve_right (unbroken violation member))
  rw [Report.violationSection, Report.violationSection, rows]

/-- With the built-in detectors, and in a project whose files have no line feeds in their names, the
summary of a run lists every violation in a row of its own unless the violation is about placeholders
and its file has a decoded text with a line feed; no other report is returned. -/
theorem perform_listsViolations
    (plan : Plan)
    (selection : Selection)
    (options : Options)
    (surroundings : Surroundings)
    (builtIn : plan.IsBuiltIn surroundings.now)
    {tree held : Tree}
    {guard : Lock.Guard}
    (taken : start options surroundings tree = (.ok guard, held))
    (paths : ∀ path ∈ (filesOn selection options held).paths, IsSingleLine path) :
    ListsViolations held (filesOn selection options held)
        (examine plan selection options surroundings guard held) ∧
      ∀ report, (perform plan selection options surroundings tree).result = .ok report →
        report = examine plan selection options surroundings guard held := by
  obtain ⟨accounted, returned⟩ :=
    perform_accounts_for_gates plan selection options surroundings taken
  exact ⟨listsViolations_of_accounted accounted fun _ isRun _ contributed =>
    isSingleLine_or_showsLineFeed_of_mem_contribution builtIn paths isRun contributed, returned⟩

/-- An artifact with a text of two lines that promises work. -/
def twoLineArtifact : Source :=
  ⟨"a.json", "\x7b\"status\":\"degraded\",\"auth\":\"todo\\nlater\"\x7d"⟩

/-- A run on an artifact with a text of two lines.  The finding about that text has a line feed, so
its violation does not have one row. -/
theorem perform_listsViolations_of_two_lines :
    let options : Options := { context := .ci }
    let surroundings : Surroundings := ⟨7, ⟨⟨2026, 5, 4⟩, 43200, 0⟩, "run", none⟩
    let selection : Selection := ⟨.standard, .missing, none⟩
    let plan := Plan.standard {} surroundings.now
    let tree : Tree := ⟨"/project", [(["a.json"], .file (.text twoLineArtifact.content))]⟩
    (∃ guard held, start options surroundings tree = (.ok guard, held) ∧
      (filesOn selection options held).paths = ["a.json"] ∧
      ListsViolations held (filesOn selection options held)
        (examine plan selection options surroundings guard held)) ∧
      ∃ finding ∈ Placeholder.checkFile plan.settings.placeholder surroundings.now twoLineArtifact,
        ¬finding.IsSingleLine := by
  intro options surroundings selection plan tree
  have taken : start options surroundings tree =
      (.ok ⟨⟨7, surroundings.now⟩, .unlocked, .held ⟨7, surroundings.now⟩, []⟩,
        (start options surroundings tree).2) :=
    Prod.ext rfl rfl
  have paths_eq : (filesOn selection options (start options surroundings tree).2).paths =
      ["a.json"] := by
    decide +kernel
  refine ⟨⟨_, _, taken, paths_eq, (perform_listsViolations plan selection options surroundings
    (Plan.isBuiltIn_standard {} surroundings.now) taken ?_).1⟩, ?_⟩
  · rw [paths_eq, List.forall_mem_singleton]
    decide
  · have broken : ((Placeholder.checkFile plan.settings.placeholder surroundings.now
        twoLineArtifact).any fun finding => !decide (IsSingleLine finding.message)) = true := by
      decide +kernel
    obtain ⟨finding, member, notSingle⟩ := List.any_eq_true.mp broken
    exact ⟨finding, member, fun single => by simp [single.message] at notSingle⟩

end Run
end QualityGate
