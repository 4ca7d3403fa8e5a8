import QualityGate.Policy.Classification
import QualityGate.Proofs.Text.Search

/-!
# Exact classification

What an exception covers and which exception counts are stated here without the search that finds
it.  Classification then is exact: the violations are the findings that nothing lets pass, the
warnings are all others, both in the order in which they were found, and every finding carries the
record of the first exception that lets it pass.
-/

namespace QualityGate

/-! ## What an exception covers -/

namespace PolicyEntry

/-- The exception names the gate of the finding or all gates, and every limit it sets accepts the
finding. -/
structure Covers (entry : PolicyEntry) (finding : Finding) : Prop where
  gate : entry.exception.gate = "*" ∨ entry.exception.gate = finding.gate.name
  rules : entry.exception.matchRule.rules = [] ∨ finding.rule ∈ entry.exception.matchRule.rules
  files : entry.exception.matchRule.files = [] ∨
    ∃ glob ∈ entry.globs, glob.accepts finding.file = true
  message : ∀ part, entry.exception.matchRule.messageContains? = some part →
    part.toList <:+: finding.message.toList

/-- The exception ends after an instant. -/
def LiveAt (entry : PolicyEntry) (now : Instant) : Prop :=
  entry.exception.expiresAt.compare now = .gt

theorem covers_eq_true_iff
    (entry : PolicyEntry)
    (finding : Finding) :
    entry.covers finding = true ↔ entry.Covers finding := by
  simp only [covers, Exception.concerns, Exception.anyGate, Bool.and_eq_true, Bool.or_eq_true,
    beq_iff_eq, List.isEmpty_iff, List.contains_iff_mem, List.any_eq_true, Option.all_eq_true,
    Text.contains_iff, and_assoc]
  constructor
  · rintro ⟨gate, rules, files, message⟩
    exact ⟨gate, rules, files, message⟩
  · rintro ⟨gate, rules, files, message⟩
    exact ⟨gate, rules, files, message⟩

theorem isExpired_eq_false_iff
    (entry : PolicyEntry)
    (now : Instant) :
    entry.exception.isExpired now = false ↔ entry.LiveAt now := by
  unfold Exception.isExpired Instant.notAfter LiveAt
  cases entry.exception.expiresAt.compare now <;> simp

/-- The exception lets the finding pass at an instant. -/
def LetsPass (entry : PolicyEntry) (now : Instant) (finding : Finding) : Prop :=
  entry.LiveAt now ∧ entry.Covers finding

/-- The test that the search for an exception applies. -/
theorem search_eq_true_iff
    (entry : PolicyEntry)
    (now : Instant)
    (finding : Finding) :
    (!entry.exception.isExpired now && entry.covers finding) = true ↔
      entry.LetsPass now finding := by
  rw [Bool.and_eq_true, Bool.not_eq_true', isExpired_eq_false_iff, covers_eq_true_iff]
  rfl

end PolicyEntry

namespace Policy

/-- The exception is the first one of the policy that lets the finding pass. -/
def Waives
    (policy : Policy)
    (now : Instant)
    (finding : Finding)
    (exception : Exception) : Prop :=
  ∃ before entry after,
    policy.entries = before ++ entry :: after ∧
      entry.exception = exception ∧
      entry.LetsPass now finding ∧
      ∀ earlier ∈ before, ¬earlier.LetsPass now finding

/-- The search finds the first exception that lets the finding pass. -/
theorem exceptionFor?_eq_some_iff
    (policy : Policy)
    (now : Instant)
    (finding : Finding)
    (exception : Exception) :
    policy.exceptionFor? finding now = some exception ↔ policy.Waives now finding exception := by
  simp only [exceptionFor?, Option.map_eq_some_iff, List.find?_eq_some_iff_append,
    PolicyEntry.search_eq_true_iff, Bool.not_eq_true', ← Bool.not_eq_true, Waives]
  constructor
  · rintro ⟨entry, ⟨passes, before, after, entries, earlier⟩, rfl⟩
    exact ⟨before, entry, after, entries, rfl, passes, earlier⟩
  · rintro ⟨before, entry, after, entries, rfl, passes, earlier⟩
    exact ⟨entry, ⟨passes, before, after, entries, earlier⟩, rfl⟩

/-- The search finds nothing exactly if no exception lets the finding pass. -/
theorem exceptionFor?_eq_none_iff
    (policy : Policy)
    (now : Instant)
    (finding : Finding) :
    policy.exceptionFor? finding now = none ↔
      ∀ entry ∈ policy.entries, ¬entry.LetsPass now finding := by
  simp only [exceptionFor?, Option.map_eq_none_iff, List.find?_eq_none,
    PolicyEntry.search_eq_true_iff]

/-! ## What becomes of a finding -/

/-- Nothing lets the finding pass: no exception, no advisory severity, no lenient level. -/
structure Blocks
    (policy : Policy)
    (level : Level)
    (now : Instant)
    (finding : Finding) : Prop where
  uncovered : ∀ entry ∈ policy.entries, ¬entry.LetsPass now finding
  severe : finding.severity? ≠ some .info ∧ finding.severity? ≠ some .warning
  enforced : level = .fail ∨ level = .block

theorem disposition_eq_violation_iff
    (policy : Policy)
    (level : Level)
    (now : Instant)
    (finding : Finding) :
    policy.disposition level now finding = .violation ↔ policy.Blocks level now finding := by
  have enforced : level.isBlocking = true ↔ level = .fail ∨ level = .block := by
    cases level <;> simp [Level.isBlocking]
  have severe : finding.isAdvisory = false ↔
      finding.severity? ≠ some .info ∧ finding.severity? ≠ some .warning := by
    unfold Finding.isAdvisory
    cases finding.severity? with
    | none => simp
    | some severity => cases severity <;> simp [Severity.isAdvisory]
  have uncovered := policy.exceptionFor?_eq_none_iff now finding
  unfold disposition
  constructor
  · intro violation
    split at violation
    · cases violation
    · rename_i unwaived
      split at violation
      · cases violation
      · rename_i notAdvisory
        split at violation
        · rename_i blocking
          exact ⟨uncovered.mp (by simpa using unwaived),
            severe.mp (by simpa using notAdvisory), enforced.mp blocking⟩
        · cases violation
  · rintro ⟨unwaived, notAdvisory, blocking⟩
    rw [uncovered.mpr unwaived, severe.mpr notAdvisory, enforced.mpr blocking]
    rfl

instance
    (policy : Policy)
    (level : Level)
    (now : Instant)
    (finding : Finding) :
    Decidable (policy.Blocks level now finding) :=
  decidable_of_iff _ (policy.disposition_eq_violation_iff level now finding)

/-- A finding is a violation or a warning, and never both. -/
theorem disposition_beq_warning
    (policy : Policy)
    (level : Level)
    (now : Instant)
    (finding : Finding) :
    (policy.disposition level now finding == .warning) =
      !(policy.disposition level now finding == .violation) := by
  cases policy.disposition level now finding <;> rfl

theorem disposition_beq_violation
    (policy : Policy)
    (level : Level)
    (now : Instant)
    (finding : Finding) :
    (policy.disposition level now finding == .violation) =
      decide (policy.Blocks level now finding) := by
  rw [Bool.eq_iff_iff, beq_iff_eq, decide_eq_true_iff, disposition_eq_violation_iff]

/-! ## Classification of lists -/

/-- The violations are the findings that nothing lets pass, each with its level and waiver. -/
theorem classify_violations
    (policy : Policy)
    (level : Level)
    (now : Instant)
    (findings : List Finding) :
    (policy.classify level now findings).violations =
      (findings.filter fun finding => decide (policy.Blocks level now finding)).map
        (policy.attach level now) := by
  simp only [classify, disposition_beq_violation]

/-- The warnings are all other findings, each with its level and waiver. -/
theorem classify_warnings
    (policy : Policy)
    (level : Level)
    (now : Instant)
    (findings : List Finding) :
    (policy.classify level now findings).warnings =
      (findings.filter fun finding => !decide (policy.Blocks level now finding)).map
        (policy.attach level now) := by
  simp only [classify, disposition_beq_warning, disposition_beq_violation]

/-- Together the two lists hold every finding once. -/
theorem classify_perm
    (policy : Policy)
    (level : Level)
    (now : Instant)
    (findings : List Finding) :
    ((policy.classify level now findings).violations ++
        (policy.classify level now findings).warnings).Perm
      (findings.map (policy.attach level now)) := by
  rw [classify_violations, classify_warnings, ← List.map_append]
  exact (List.filter_append_perm _ findings).map _

/-- The waiver of a finding is the record of the first exception that lets it pass. -/
theorem waiver?_attach_eq_some_iff
    (policy : Policy)
    (level : Level)
    (now : Instant)
    (finding : Finding)
    (waiver : Waiver) :
    (policy.attach level now finding).waiver? = some waiver ↔
      ∃ exception, policy.Waives now finding exception ∧
        waiver = ⟨exception.id?, exception.reason, exception.approvedBy, exception.expiresAt⟩ := by
  simp only [attach, Option.map_eq_some_iff, exceptionFor?_eq_some_iff, Waiver.ofException]
  constructor
  · rintro ⟨exception, waives, rfl⟩
    exact ⟨exception, waives, rfl⟩
  · rintro ⟨exception, waives, rfl⟩
    exact ⟨exception, waives, rfl⟩

theorem isSome_waiver?_attach_iff
    (policy : Policy)
    (level : Level)
    (now : Instant)
    (finding : Finding) :
    (policy.attach level now finding).waiver?.isSome = true ↔
      ∃ entry ∈ policy.entries, entry.LetsPass now finding := by
  rw [← not_iff_not, Bool.not_eq_true, Option.isSome_eq_false_iff, Option.isNone_iff_eq_none,
    attach, Option.map_eq_none_iff, exceptionFor?_eq_none_iff]
  push Not
  rfl

/-- Classification is exact: violations are the findings without an exception, without an advisory
severity and at an enforced level; warnings are the others; both keep the order of the findings, and
every finding is carried unchanged with the level and the record of the first exception that lets
it pass. -/
theorem classify_exact
    (policy : Policy)
    (level : Level)
    (now : Instant)
    (findings : List Finding) :
    (policy.classify level now findings).violations.map Classified.finding =
        findings.filter (fun finding => decide (policy.Blocks level now finding)) ∧
      (policy.classify level now findings).warnings.map Classified.finding =
        findings.filter (fun finding => !decide (policy.Blocks level now finding)) ∧
      ∀ classified ∈ (policy.classify level now findings).violations ++
          (policy.classify level now findings).warnings,
        classified.level = level ∧
          (classified.waiver?.isSome = true ↔
            ∃ entry ∈ policy.entries, entry.LetsPass now classified.finding) ∧
          ∀ waiver, classified.waiver? = some waiver ↔
            ∃ exception, policy.Waives now classified.finding exception ∧
              waiver =
                ⟨exception.id?, exception.reason, exception.approvedBy, exception.expiresAt⟩ := by
  have carried : Classified.finding ∘ policy.attach level now = id := rfl
  refine ⟨?_, ?_, ?_⟩
  · rw [classify_violations, List.map_map, carried, List.map_id]
  · rw [classify_warnings, List.map_map, carried, List.map_id]
  · intro classified member
    obtain ⟨finding, -, rfl⟩ :=
      List.mem_map.mp ((policy.classify_perm level now findings).mem_iff.mp member)
    exact ⟨rfl, policy.isSome_waiver?_attach_iff level now finding,
      policy.waiver?_attach_eq_some_iff level now finding⟩

end Policy
end QualityGate
