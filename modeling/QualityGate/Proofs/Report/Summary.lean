import QualityGate.Report.Summary
import QualityGate.Proofs.Text.SingleLine

/-!
# The rows of a summary

The rows of a file are what stands between its line feeds.  A summary has the rows of each of its
lines in their order.  In the section on violations every violation that is listed has one row,
unless what the row shows of it has a line feed itself, and one further row counts the violations
that are not listed.
-/

namespace QualityGate
namespace Report

open Text (IsSingleLine)

/-! ## Rows -/

/-- The rows of a text: what stands between its line feeds. -/
def rowsOf (text : String) : List String :=
  Text.splitWhere (· == '\n') text

theorem rowsOf_eq_singleton_iff (text : String) : rowsOf text = [text] ↔ IsSingleLine text := by
  constructor
  · intro only
    have isRow : text ∈ rowsOf text := by
      rw [only]
      exact List.mem_singleton_self text
    exact Text.not_mem_of_mem_splitWhere isRow
  · intro single
    have apart : ∀ character ∈ text.toList, (character == '\n') = false := by
      intro character member
      rw [beq_eq_false_iff_ne]
      rintro rfl
      exact single member
    rw [rowsOf, Text.splitWhere, List.splitOnP_eq_singleton apart, List.map_singleton,
      String.ofList_toList]

theorem rowsOf_append_lineFeed (text behind : String) :
    rowsOf (text ++ "\n" ++ behind) = rowsOf text ++ rowsOf behind := by
  have characters : (text ++ "\n" ++ behind).toList = text.toList ++ '\n' :: behind.toList := by
    simp [String.toList_append]
  rw [rowsOf, Text.splitWhere, characters, List.splitOnP_append_cons _ _ (by rfl), List.map_append]
  rfl

/-- Lines that are ended by line feeds have the rows of each of them, and an empty row behind. -/
theorem rowsOf_join (lines : List String) :
    rowsOf (String.join (lines.map (· ++ "\n"))) = lines.flatMap rowsOf ++ [""] := by
  induction lines with
  | nil => decide
  | cons line rest inductionHypothesis =>
    rw [List.map_cons, String.join_cons, rowsOf_append_lineFeed, inductionHypothesis,
      List.flatMap_cons, List.append_assoc]

theorem flatMap_rowsOf_eq_self {lines : List String} (singles : ∀ line ∈ lines, IsSingleLine line) :
    lines.flatMap rowsOf = lines := by
  rw [List.flatMap_congr fun line member => (rowsOf_eq_singleton_iff line).mpr (singles line member)]
  exact List.flatMap_singleton' lines

/-! ## The section on violations -/

/-- The row that counts the violations that are not listed. -/
def remainderRows (count : Nat) : List String :=
  if 50 < count then
    ["- ... and " ++ Text.decimal (count - 50) ++ " more in `.qgate/report.json`"]
  else []

/-- The rows of the section on violations, when every violation that is listed has the given
ones. -/
def violationSection (rows : Classified → List String) (violations : List Classified) :
    List String :=
  if violations.isEmpty then []
  else
    ["", "### Violations", ""] ++ (violations.take 50).flatMap rows ++
      remainderRows violations.length

theorem isSingleLine_remainderRows (count : Nat) :
    ∀ row ∈ remainderRows count, IsSingleLine row := by
  intro row member
  rw [remainderRows] at member
  split at member
  · rw [List.mem_singleton.mp member]
    simp +decide only [Text.isSingleLine_append_iff, Text.isSingleLine_decimal]
  · cases member

theorem flatMap_rowsOf_violations (violations : List Classified) :
    (sectionLines "Violations" (violationLines violations)).flatMap rowsOf =
      violationSection (fun classified => rowsOf (violationLine classified)) violations := by
  have remainder : violationLines violations =
      (violations.take 50).map violationLine ++ remainderRows violations.length := by
    simp [violationLines, remainderRows, listedViolations, Settings.reportPath, String.append_assoc]
  have rows : (violationLines violations).flatMap rowsOf =
      (violations.take 50).flatMap (fun classified => rowsOf (violationLine classified)) ++
        remainderRows violations.length := by
    rw [remainder, List.flatMap_append, List.flatMap_map,
      flatMap_rowsOf_eq_self (isSingleLine_remainderRows _)]
  cases violations with
  | nil => rfl
  | cons first others =>
    have heading : ["", "### " ++ "Violations", ""].flatMap rowsOf = ["", "### Violations", ""] := by
      decide
    rw [sectionLines, if_neg (by simp [violationLines, listedViolations]), List.flatMap_append,
      heading, rows, violationSection, if_neg (by simp), List.append_assoc]

/-- The row on a violation is an item of a list and ends with the gate in parentheses. -/
theorem startsWith_endsWith_violationLine (classified : Classified) :
    Text.startsWith (violationLine classified) "- " = true ∧
      Text.endsWith (violationLine classified)
        ("(" ++ classified.finding.gate.name ++ ")") = true := by
  rw [Text.startsWith, List.isPrefixOf_iff_prefix, Text.endsWith, List.isSuffixOf_iff_suffix]
  constructor
  · simp only [violationLine, String.toList_append, List.append_assoc]
    exact ⟨_, rfl⟩
  · refine ⟨("- `" ++ placeOf classified.finding ++ "` **" ++ classified.finding.rule ++ "** " ++
      classified.finding.message ++ " ").toList, ?_⟩
    have blank : " (" = " " ++ "(" := rfl
    rw [← String.toList_append, String.toList_inj, violationLine, blank]
    simp only [String.append_assoc]

theorem isSingleLine_name (gate : Gate) : IsSingleLine gate.name := by
  cases gate <;> decide

/-- The row on a violation has a line feed only if its file, its rule or its message has one. -/
theorem isSingleLine_violationLine_iff (classified : Classified) :
    IsSingleLine (violationLine classified) ↔
      IsSingleLine classified.finding.file ∧ IsSingleLine classified.finding.rule ∧
        IsSingleLine classified.finding.message := by
  have place_iff : IsSingleLine (placeOf classified.finding) ↔
      IsSingleLine classified.finding.file := by
    rw [placeOf]
    split
    · simp +decide only [Text.isSingleLine_append_iff, Text.isSingleLine_decimal, and_true]
    · rfl
  unfold violationLine
  simp +decide only [Text.isSingleLine_append_iff, place_iff, isSingleLine_name, true_and,
    and_true, and_assoc]

/-! ## The whole summary -/

/-- The lines in front of the violations. -/
def overview (report : Report) : List String :=
  ["## qgate: " ++ (if report.passed then "passed" else "failed") ++ " (" ++
      report.context.name ++ ")",
    "",
    Text.decimal report.filesScoped ++ " files scoped · " ++
      Text.decimal report.violations.length ++ " violations · " ++
      Text.decimal report.warnings.length ++ " warnings · " ++
      Text.decimal report.milliseconds ++ " ms",
    "",
    "| Gate | Level | Status | Violations | Warnings |",
    "|------|-------|--------|------------|----------|"] ++
    report.gates.map report.gateRow

theorem isSingleLine_gateRow (report : Report) (gate : GateReport) :
    IsSingleLine (report.gateRow gate) := by
  have level : IsSingleLine (report.levelName gate.gate) := by
    rw [levelName]
    cases report.enforcement.lookup gate.gate with
    | none => decide
    | some level => cases level <;> decide
  have status : IsSingleLine gate.status.name := by
    cases gate.status <;> decide
  unfold gateRow
  simp +decide only [Text.isSingleLine_append_iff, Text.isSingleLine_decimal, isSingleLine_name,
    level, status]

theorem isSingleLine_overview (report : Report) : ∀ line ∈ report.overview, IsSingleLine line := by
  have context : IsSingleLine report.context.name := by
    cases report.context <;> decide
  have verdict : IsSingleLine (if report.passed then "passed" else "failed") := by
    split <;> decide
  rw [overview, List.forall_mem_append]
  constructor
  · simp +decide only [List.forall_mem_cons, Text.isSingleLine_append_iff,
      Text.isSingleLine_decimal, context, verdict]
  · rw [List.forall_mem_map]
    exact fun gate _ => report.isSingleLine_gateRow gate

/-- A summary has the rows of its overview, of the section on violations, and of the notices. -/
theorem rowsOf_summary (report : Report) :
    rowsOf report.summary =
      report.overview ++
        violationSection (fun classified => rowsOf (violationLine classified)) report.violations ++
        (sectionLines "Notices" (report.notices.map ("- " ++ ·))).flatMap rowsOf ++ ["", ""] := by
  have lines : report.summaryLines =
      report.overview ++ sectionLines "Violations" (violationLines report.violations) ++
        sectionLines "Notices" (report.notices.map ("- " ++ ·)) ++ [""] := rfl
  rw [summary, rowsOf_join, lines, List.flatMap_append, List.flatMap_append, List.flatMap_append,
    flatMap_rowsOf_eq_self report.isSingleLine_overview, flatMap_rowsOf_violations, List.append_assoc]
  rfl

end Report
end QualityGate
