import QualityGate.Proofs.Gate
import QualityGate.Proofs.Report.Order
import Mathlib.Data.List.Forall2

/-!
# Stable sorting by gates

The sort of reports is stable, so it commutes with leaving items out.  A list in the order of gates
is therefore known from its parts, one for each gate, and the part for a gate depends on nothing but
the order in which the items of that gate were given.
-/

namespace QualityGate

section Sorting

variable {α : Type} {le : α → α → Bool}
  (trans : ∀ first second third, le first second = true → le second third = true →
    le first third = true)
  (total : ∀ first second, (le first second || le second first) = true)

include trans total

/-- A sorted list is cut at an item in one way only: what is smaller, and what is not. -/
theorem eq_filter_of_mergeSort_cons
    {item : α}
    {rest before behind : List α}
    (sorted : (item :: rest).mergeSort le = before ++ item :: behind)
    (smaller : ∀ other ∈ before, (!le item other) = true) :
    before = (before ++ behind).filter (fun other => !le item other) ∧
      behind = (before ++ behind).filter (le item) := by
  have ordered := List.pairwise_mergeSort trans total (item :: rest)
  rw [sorted] at ordered
  have larger : ∀ other ∈ behind, le item other = true :=
    (List.pairwise_cons.mp (List.pairwise_append.mp ordered).2.1).1
  have noneBehind : behind.filter (fun other => !le item other) = [] := by
    rw [List.filter_eq_nil_iff]
    intro other member
    simp [larger other member]
  have noneBefore : before.filter (le item) = [] := by
    rw [List.filter_eq_nil_iff]
    intro other member
    simpa using smaller other member
  rw [List.filter_append, List.filter_append, noneBehind, noneBefore, List.append_nil,
    List.nil_append, List.filter_eq_self.mpr smaller, List.filter_eq_self.mpr larger]
  exact ⟨rfl, rfl⟩

/-- The sort is stable: items can be left out before or behind it. -/
theorem filter_mergeSort
    (keeps : α → Bool)
    (items : List α) :
    (items.mergeSort le).filter keeps = (items.filter keeps).mergeSort le := by
  induction items with
  | nil => simp
  | cons item rest inductionHypothesis =>
    obtain ⟨before, behind, sorted, others, smaller⟩ := List.mergeSort_cons trans total item rest
    rw [others] at inductionHypothesis
    rw [sorted, List.filter_append]
    cases kept : keeps item with
    | false =>
      rw [List.filter_cons_of_neg (by simp [kept]), List.filter_cons_of_neg (by simp [kept]),
        ← List.filter_append, inductionHypothesis]
    | true =>
      obtain ⟨keptBefore, keptBehind, keptSorted, keptOthers, keptSmaller⟩ :=
        List.mergeSort_cons trans total item (rest.filter keeps)
      have cut := eq_filter_of_mergeSort_cons trans total sorted smaller
      have keptCut := eq_filter_of_mergeSort_cons trans total keptSorted keptSmaller
      have same : keptBefore ++ keptBehind = (before ++ behind).filter keeps := by
        rw [← keptOthers, inductionHypothesis]
      rw [same, List.filter_comm, ← cut.1, List.filter_comm, ← cut.2] at keptCut
      rw [List.filter_cons_of_pos kept, List.filter_cons_of_pos kept, keptSorted, ← keptCut.1,
        ← keptCut.2]

end Sorting

/-! ## Parts for gates -/

namespace Gate

/-- The items that belong to a gate. -/
def part {α : Type} (gateOf : α → Gate) (gate : Gate) (items : List α) : List α :=
  items.filter fun item => gateOf item == gate

section Parts

variable {α β : Type} {gateOf : α → Gate} {otherGate : β → Gate} {same : α → β → Prop}
  {gate : Gate} {item : α} {rest : List α}

theorem mem_part_iff
    {items : List α} :
    item ∈ part gateOf gate items ↔ item ∈ items ∧ gateOf item = gate := by
  simp [part]

theorem part_cons_of_eq
    (isGate : gateOf item = gate) :
    part gateOf gate (item :: rest) = item :: part gateOf gate rest :=
  List.filter_cons_of_pos (by simpa using isGate)

theorem part_cons_of_ne
    (isOther : gateOf item ≠ gate) :
    part gateOf gate (item :: rest) = part gateOf gate rest :=
  List.filter_cons_of_neg (by simpa using isOther)

/-- Nothing is left for a gate that comes before the first item of a list in the order of gates. -/
theorem part_eq_nil_of_rank_lt
    (sorted : (item :: rest).Pairwise fun first second =>
      (gateOf first).rank ≤ (gateOf second).rank)
    (earlier : gate.rank < (gateOf item).rank) :
    part gateOf gate (item :: rest) = [] := by
  refine List.eq_nil_iff_forall_not_mem.mpr fun other member => ?_
  obtain ⟨isItem, isGate⟩ := mem_part_iff.mp member
  rw [← isGate] at earlier
  rcases List.mem_cons.mp isItem with rfl | later
  · exact Nat.lt_irrefl _ earlier
  · exact Nat.lt_irrefl _
      (Nat.lt_of_lt_of_le earlier ((List.pairwise_cons.mp sorted).1 other later))

/-- Lists in the order of gates correspond item by item if their parts do. -/
theorem forall₂_of_parts
    {items : List α}
    {others : List β}
    (sorted : items.Pairwise fun first second => (gateOf first).rank ≤ (gateOf second).rank)
    (otherSorted : others.Pairwise fun first second =>
      (otherGate first).rank ≤ (otherGate second).rank)
    (parts : ∀ gate, List.Forall₂ same (part gateOf gate items) (part otherGate gate others)) :
    List.Forall₂ same items others := by
  induction items generalizing others with
  | nil =>
    cases others with
    | nil => exact List.Forall₂.nil
    | cons other rest =>
      have first := parts (otherGate other)
      rw [part_cons_of_eq rfl] at first
      cases first
  | cons item rest inductionHypothesis =>
    cases others with
    | nil =>
      have first := parts (gateOf item)
      rw [part_cons_of_eq rfl] at first
      cases first
    | cons other otherRest =>
      rcases Nat.lt_trichotomy (gateOf item).rank (otherGate other).rank with
        before | equal | behind
      · have first := parts (gateOf item)
        rw [part_eq_nil_of_rank_lt otherSorted before, part_cons_of_eq rfl] at first
        cases first
      · have gate_eq := rank_injective equal
        have first := parts (gateOf item)
        rw [part_cons_of_eq rfl, part_cons_of_eq gate_eq.symm] at first
        refine .cons (List.forall₂_cons.mp first).1 (inductionHypothesis
          (List.pairwise_cons.mp sorted).2 (List.pairwise_cons.mp otherSorted).2 fun gate => ?_)
        by_cases isFirst : gateOf item = gate
        · subst isFirst
          exact (List.forall₂_cons.mp first).2
        · have later := parts gate
          rwa [part_cons_of_ne isFirst, part_cons_of_ne (gate_eq ▸ isFirst)] at later
      · have first := parts (otherGate other)
        rw [part_eq_nil_of_rank_lt sorted behind, part_cons_of_eq rfl] at first
        cases first

end Parts

end Gate

/-! ## Lists of reports -/

namespace Classified

/-- The gate of a classified finding. -/
def gate (classified : Classified) : Gate :=
  classified.finding.gate

/-- The order of reports is one of gates first. -/
theorem rank_le_of_precedes
    {first second : Classified}
    (precedes : Precedes first second) :
    first.gate.rank ≤ second.gate.rank := by
  unfold Precedes Finding.reportOrder at precedes
  exact Nat.isLE_compare.mp (Ordering.isLE_left_of_isLE_then precedes)

theorem part_sorted
    (gate : Gate)
    (findings : List Classified) :
    Gate.part Classified.gate gate (sorted findings) =
      sorted (Gate.part Classified.gate gate findings) :=
  filter_mergeSort isLE_trans isLE_total _ findings

end Classified

namespace GateReport

/-- Lines about one gate keep their order. -/
theorem part_sorted
    (gate : Gate)
    (lines : List GateReport) :
    Gate.part GateReport.gate gate (sorted lines) = Gate.part GateReport.gate gate lines := by
  refine (filter_mergeSort rank_le_trans rank_le_total _ lines).trans
    (List.mergeSort_of_pairwise (List.pairwise_of_forall_mem_list ?_))
  intro first isFirst second isSecond
  rw [(Gate.mem_part_iff.mp isFirst).2, (Gate.mem_part_iff.mp isSecond).2]
  exact decide_eq_true (Nat.le_refl _)

end GateReport
end QualityGate
