import QualityGate.Report.Basic

/-!
# Summaries

A report in Markdown, for the summary of a job.
-/

namespace QualityGate
namespace Report

/-- The number of violations that are listed. -/
def listedViolations : Nat := 50

/-- The place of a finding: its file, and its line if it has one. -/
def placeOf (finding : Finding) : String :=
  match finding.line? with
  | some line => finding.file ++ ":" ++ Text.decimal line
  | none => finding.file

/-- The level of a gate in a report. -/
def levelName (report : Report) (gate : Gate) : String :=
  ((report.enforcement.lookup gate).map Level.name).getD ""

/-- The row of the table on a gate. -/
def gateRow (report : Report) (gate : GateReport) : String :=
  "| " ++ gate.gate.name ++ " | " ++ report.levelName gate.gate ++ " | " ++ gate.status.name ++
    " | " ++ Text.decimal gate.violations ++ " | " ++ Text.decimal gate.warnings ++ " |"

/-- The line on a violation. -/
def violationLine (classified : Classified) : String :=
  let finding := classified.finding
  "- `" ++ placeOf finding ++ "` **" ++ finding.rule ++ "** " ++ finding.message ++ " (" ++
    finding.gate.name ++ ")"

/-- The lines on the violations. -/
def violationLines (violations : List Classified) : List String :=
  (violations.take listedViolations).map violationLine ++
    if listedViolations < violations.length then
      ["- ... and " ++ Text.decimal (violations.length - listedViolations) ++ " more in `" ++
        Settings.reportPath ++ "`"]
    else []

/-- A section with a title, unless it is empty. -/
def sectionLines (title : String) (lines : List String) : List String :=
  if lines.isEmpty then [] else ["", "### " ++ title, ""] ++ lines

/-- The lines of a summary. -/
def summaryLines (report : Report) : List String :=
  ["## qgate: " ++ (if report.passed then "passed" else "failed") ++ " (" ++
      report.context.name ++ ")",
    "",
    Text.decimal report.filesScoped ++ " files scoped · " ++
      Text.decimal report.violations.length ++ " violations · " ++
      Text.decimal report.warnings.length ++ " warnings · " ++
      Text.decimal report.milliseconds ++ " ms",
    "",
    "| Gate | Level | Status | Violations | Warnings |",
    "|------|-------|--------|------------|----------|"] ++
    report.gates.map report.gateRow ++
    sectionLines "Violations" (violationLines report.violations) ++
    sectionLines "Notices" (report.notices.map ("- " ++ ·)) ++
    [""]

/-- A report in Markdown. -/
def summary (report : Report) : String :=
  String.join (report.summaryLines.map (· ++ "\n"))

end Report
end QualityGate
