import QualityGate.Report.Basic

/-!
# The order of reports

Findings are compared field by field, so their comparison is transitive and any two of them are
comparable.  A stable sort by it therefore leaves every list of a report in order and loses nothing.
-/

namespace QualityGate

namespace Finding

/-- A missing line comes before every line, as a missing value does in the order of optional
numbers. -/
theorem compareLines_eq_compare (first second : Option Nat) :
    compareLines first second = compare first second := by
  cases first <;> cases second <;> rfl

/-- The comparison of findings is the lexicographic one of their fields. -/
theorem reportOrder_eq_compareLex :
    reportOrder =
      compareLex (compareOn fun finding => finding.gate.rank)
        (compareLex (compareOn Finding.file)
          (compareLex (compareOn Finding.line?)
            (compareLex (compareOn Finding.rule) (compareOn Finding.message)))) := by
  funext first second
  simp only [reportOrder, compareLines_eq_compare]
  rfl

instance : Std.TransCmp reportOrder := by
  rw [reportOrder_eq_compareLex]
  infer_instance

end Finding

namespace Classified

/-- The first finding may stand before the second one in a report. -/
def Precedes (first second : Classified) : Prop :=
  (first.finding.reportOrder second.finding).isLE = true

/-- Sorting loses no finding and invents none. -/
theorem sorted_perm (findings : List Classified) : (sorted findings).Perm findings :=
  List.mergeSort_perm findings _

/-- The order of classified findings is that of their findings. -/
theorem isLE_trans
    (first second third : Classified)
    (before : (first.finding.reportOrder second.finding).isLE = true)
    (after : (second.finding.reportOrder third.finding).isLE = true) :
    (first.finding.reportOrder third.finding).isLE = true :=
  Std.TransCmp.isLE_trans before after

theorem isLE_total
    (first second : Classified) :
    ((first.finding.reportOrder second.finding).isLE ||
      (second.finding.reportOrder first.finding).isLE) = true := by
  have swapped : second.finding.reportOrder first.finding =
      (first.finding.reportOrder second.finding).swap :=
    Std.OrientedCmp.eq_swap
  rw [swapped, Bool.or_eq_true]
  cases first.finding.reportOrder second.finding <;> simp

/-- Sorted findings are in the order of reports. -/
theorem pairwise_sorted (findings : List Classified) : (sorted findings).Pairwise Precedes :=
  List.pairwise_mergeSort isLE_trans isLE_total findings

end Classified

namespace GateReport

/-- Sorting loses no line and invents none. -/
theorem sorted_perm (lines : List GateReport) : (sorted lines).Perm lines :=
  List.mergeSort_perm lines _

theorem rank_le_trans
    (first second third : GateReport)
    (before : decide (first.gate.rank ≤ second.gate.rank) = true)
    (after : decide (second.gate.rank ≤ third.gate.rank) = true) :
    decide (first.gate.rank ≤ third.gate.rank) = true :=
  decide_eq_true (Nat.le_trans (of_decide_eq_true before) (of_decide_eq_true after))

theorem rank_le_total
    (first second : GateReport) :
    (decide (first.gate.rank ≤ second.gate.rank) ||
      decide (second.gate.rank ≤ first.gate.rank)) = true := by
  simpa using Nat.le_total first.gate.rank second.gate.rank

/-- Sorted lines are in the order of their gates. -/
theorem pairwise_sorted (lines : List GateReport) :
    (sorted lines).Pairwise fun first second => first.gate.rank ≤ second.gate.rank :=
  (List.pairwise_mergeSort rank_le_trans rank_le_total lines).imp of_decide_eq_true

end GateReport
end QualityGate
