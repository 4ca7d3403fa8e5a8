import QualityGate.Lock.Basic
import QualityGate.Report.Summary

/-!
# What the program prints

Reports, the list of gates, and the status of the lock, line by line.
-/

namespace QualityGate
namespace CommandLine

/-- The numbers of violations and warnings. -/
def countsText (violations warnings : Nat) : String :=
  Text.decimal violations ++ " violations, " ++ Text.decimal warnings ++ " warnings"

/-- The line on a gate in a report. -/
def gateLine (gate : GateReport) : String :=
  "  " ++ Text.padEnd 14 gate.gate.name ++ " " ++ Text.padEnd 8 gate.status.name ++ " " ++
    countsText gate.violations gate.warnings ++ " (" ++ Text.decimal gate.milliseconds ++ " ms)"

/-- Where a finding is, its rule and its message. -/
def findingText (finding : Finding) : String :=
  "  " ++ Report.placeOf finding ++ " [" ++ finding.rule ++ "] " ++ finding.message

/-- The lines on a violation. -/
def violationLines (classified : Classified) : List String :=
  findingText classified.finding ::
    (Text.lines (classified.finding.suggestion?.getD "")).map ("      " ++ ·)

/-- The line on a warning. -/
def warningLine (classified : Classified) : String :=
  findingText classified.finding ++
    match classified.waiver? with
    | some waiver => " (waived: " ++ waiver.reason ++ ")"
    | none => ""

/-- A list with a title, unless it is empty. -/
def titled (title : String) (lines : List String) : List String :=
  if lines.isEmpty then [] else ["", title] ++ lines

/-- The lines on a report. -/
def reportLines (report : Report) : List String :=
  ["qgate " ++ report.context.name ++ " context, " ++ Text.decimal report.filesScoped ++
      " files (" ++ report.origin.label ++ ")"] ++
    report.gates.map gateLine ++
    titled "Violations:" (report.violations.flatMap violationLines) ++
    titled "Warnings:" (report.warnings.map warningLine) ++
    report.notices.map ("Notice: " ++ ·) ++
    ["",
      (if report.passed then "PASSED" else "FAILED") ++ " " ++
        countsText report.violations.length report.warnings.length ++ " in " ++
        Text.decimal report.milliseconds ++ " ms"]

/-- A row of the table of gates. -/
def tableRow (name : String) (levels : List String) (description : String) : String :=
  String.intercalate " "
    ([Text.padEnd 14 name] ++ levels.map (Text.padEnd 8) ++ [description])

/-- The table of gates with their levels. -/
def gateTable (overrides : Dictionary ContextLevels) : List String :=
  tableRow "GATE" (Context.all.map Context.name) "DESCRIPTION" ::
    Gate.all.map fun gate =>
      tableRow gate.name
        (Context.all.map fun context => ((Enforcement.mk context overrides).level gate).name)
        gate.description

/-- The line on the status of the lock. -/
def statusLine : Lock.Status → String
  | .free => "free no run in progress"
  | .live marker =>
    "locked held by pid " ++ Text.decimal marker.process ++ " since " ++ marker.since.offsetText
  | .stale marker =>
    "stale left by pid " ++ Text.decimal marker.process ++ " at " ++ marker.since.offsetText ++
      "; the next run reclaims it"
  | .corrupt message => "corrupt unreadable marker: " ++ message

/-- The line on a lock that was cleared. -/
def clearedLine : Option Lock.Marker → String
  | some marker => "OK removed lock held by pid " ++ Text.decimal marker.process
  | none => "OK no lock to clear"

/-- How the program is called. -/
def usageLines : List String :=
  ["Usage: qgate [OPTIONS] [COMMAND]", "",
    "Commands:",
    "  run       Run quality gates (default)",
    "  gates     List the gates and their enforcement levels per context",
    "  baseline  Record current file sizes as the god-object baseline",
    "  lock      Inspect or clear the run lock: status, clear", "",
    "Options:",
    "  -p, --project-dir <PROJECT>    Project directory",
    "  -v, --verbose                  Debug logging",
    "  -q, --quiet                    Print nothing",
    "      --log-format <LOG_FORMAT>  Log line format: text, json",
    "      --context <CONTEXT>        Invocation context: commit, push, ci",
    "      --push                     Infer the push context when no context is given",
    "      --gates <GATES>            Comma-separated subset of gates to run",
    "      --force                    Bypass a live run lock",
    "      --json                     Print the report JSON to stdout",
    "      --threshold <THRESHOLD>    Hidden-TODO confidence threshold in [-1, 1]",
    "      --crisis-mode              Only the crisis tier of the god-object gate blocks",
    "      --timeout <SECS>           Per-gate timeout in seconds",
    "      --suggest-templates        Suggest a structured TODO template",
    "  -h, --help                     Print help",
    "  -V, --version                  Print version"]

end CommandLine
end QualityGate
