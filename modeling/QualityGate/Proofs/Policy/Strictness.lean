import QualityGate.Proofs.Policy.Classification
import Mathlib.Data.List.Basic

/-!
# How strict a policy is

Exceptions that have ended do not count.  More exceptions, a lower level and an earlier instant only
let more findings pass, and the order of the exceptions does not matter for what becomes of a
finding.  So the empty policy, which stands in for one that cannot be loaded, is the strictest.
-/

namespace QualityGate

/-! ## Time and levels -/

namespace Instant

/-- The comparison of instants is the lexicographic one of their parts. -/
theorem compare_eq_compareLex :
    Instant.compare =
      compareLex (compareOn fun instant => instant.date.year)
        (compareLex (compareOn fun instant => instant.date.month)
          (compareLex (compareOn fun instant => instant.date.day)
            (compareLex (compareOn Instant.second) (compareOn Instant.nanosecond)))) := by
  funext first second
  simp only [Instant.compare, Date.compare, Ordering.then_assoc]
  rfl

instance : Std.TransCmp Instant.compare := by
  rw [compare_eq_compareLex]
  infer_instance

end Instant

/-- The place of a level among the levels, from the most lenient one on. -/
def Level.rank : Level → Nat
  | .warning => 0
  | .fail => 1
  | .block => 2

/-- An exception that counts at an instant has counted before. -/
theorem PolicyEntry.LiveAt.earlier
    {entry : PolicyEntry}
    {now earlier : Instant}
    (live : entry.LiveAt now)
    (before : earlier.notAfter now = true) :
    entry.LiveAt earlier := by
  have reversed : now.compare entry.exception.expiresAt = .lt :=
    Std.OrientedCmp.gt_iff_lt.mp live
  have ends : earlier.compare entry.exception.expiresAt = .lt :=
    Std.TransCmp.lt_of_isLE_of_lt before reversed
  exact Std.OrientedCmp.gt_iff_lt.mpr ends

namespace Policy

/-! ## Policies that let more pass -/

/-- The first judgement has all exceptions of the second one, a level that is not higher and an
instant that is not later. -/
structure Relaxes
    (policy : Policy)
    (level : Level)
    (now : Instant)
    (other : Policy)
    (otherLevel : Level)
    (otherNow : Instant) : Prop where
  exceptions : other.entries ⊆ policy.entries
  level : level.rank ≤ otherLevel.rank
  instant : now.notAfter otherNow = true

/-- The first judgement lets pass whatever the second one lets pass, and its violations are some of
the second one's violations, in the same order. -/
structure NoStricter
    (policy : Policy)
    (level : Level)
    (now : Instant)
    (other : Policy)
    (otherLevel : Level)
    (otherNow : Instant) : Prop where
  passes : ∀ finding, other.disposition otherLevel otherNow finding = .warning →
    policy.disposition level now finding = .warning
  violations : ∀ findings,
    (policy.classify level now findings).violations.Sublist
      ((other.classify otherLevel otherNow findings).violations.map fun classified =>
        { classified with level := level })

section Judgements

variable {policy other : Policy} {level otherLevel : Level} {now otherNow : Instant}

/-- What no exception, severity or level lets pass is stopped by a stricter judgement too. -/
theorem Relaxes.blocks
    (relaxes : Relaxes policy level now other otherLevel otherNow)
    {finding : Finding}
    (blocks : policy.Blocks level now finding) :
    other.Blocks otherLevel otherNow finding where
  uncovered := by
    rintro entry member ⟨live, covers⟩
    exact blocks.uncovered entry (relaxes.exceptions member)
      ⟨live.earlier relaxes.instant, covers⟩
  severe := blocks.severe
  enforced := by
    have notAbove := relaxes.level
    rcases blocks.enforced with rfl | rfl <;> cases otherLevel <;> simp_all [Level.rank]

/-- A violation has no waiver. -/
theorem Blocks.attach_eq
    {finding : Finding}
    (blocks : policy.Blocks level now finding) :
    policy.attach level now finding = ⟨finding, level, none⟩ := by
  rw [attach, (policy.exceptionFor?_eq_none_iff now finding).mpr blocks.uncovered]
  rfl

/-- The violations, without the search for exceptions. -/
theorem violations_eq
    (policy : Policy)
    (level : Level)
    (now : Instant)
    (findings : List Finding) :
    (policy.classify level now findings).violations =
      (findings.filter fun finding => decide (policy.Blocks level now finding)).map
        fun finding => ⟨finding, level, none⟩ := by
  rw [classify_violations]
  apply List.map_congr_left
  intro finding member
  exact (of_decide_eq_true (List.mem_filter.mp member).2).attach_eq

/-- Whoever relaxes a judgement is no stricter. -/
theorem Relaxes.noStricter
    (relaxes : Relaxes policy level now other otherLevel otherNow) :
    NoStricter policy level now other otherLevel otherNow where
  passes := by
    intro finding passed
    cases become : policy.disposition level now finding with
    | warning => rfl
    | violation =>
      have blocks := relaxes.blocks ((policy.disposition_eq_violation_iff ..).mp become)
      rw [(other.disposition_eq_violation_iff ..).mpr blocks] at passed
      cases passed
  violations := by
    intro findings
    rw [violations_eq, violations_eq, List.map_map]
    apply List.Sublist.map
    apply List.monotone_filter_right
    intro finding blocks
    exact decide_eq_true (relaxes.blocks (of_decide_eq_true blocks))

/-- At one level no violation changes. -/
theorem NoStricter.violations_sublist
    (noStricter : NoStricter policy level now other level otherNow)
    (findings : List Finding) :
    (policy.classify level now findings).violations.Sublist
      (other.classify level otherNow findings).violations := by
  have unchanged : (other.classify level otherNow findings).violations.map
      (fun classified => { classified with level := level }) =
        (other.classify level otherNow findings).violations := by
    rw [violations_eq, List.map_map]
    rfl
  have sublist := noStricter.violations findings
  rwa [unchanged] at sublist

end Judgements

/-! ## Changes of a policy -/

/-- The policy without the exceptions that have ended. -/
def unexpired (policy : Policy) (now : Instant) : Policy :=
  ⟨policy.entries.filter fun entry => !entry.exception.isExpired now⟩

/-- The policy with one more exception. -/
def add (policy : Policy) (entry : PolicyEntry) : Policy :=
  ⟨policy.entries ++ [entry]⟩

/-- Exceptions that have ended are not looked at. -/
theorem exceptionFor?_unexpired
    (policy : Policy)
    (now : Instant)
    (finding : Finding) :
    (policy.unexpired now).exceptionFor? finding now = policy.exceptionFor? finding now := by
  unfold exceptionFor? unexpired
  rw [List.find?_filter]
  congr 2
  funext entry
  cases entry.exception.isExpired now <;> simp

/-- Classification depends on nothing but the exceptions that are found. -/
theorem classify_congr
    {policy other : Policy}
    {now : Instant}
    (same : ∀ finding, policy.exceptionFor? finding now = other.exceptionFor? finding now)
    (level : Level)
    (findings : List Finding) :
    policy.classify level now findings = other.classify level now findings := by
  have dispositions : policy.disposition level now = other.disposition level now := by
    funext finding
    rw [disposition, disposition, same]
  have attached : policy.attach level now = other.attach level now := by
    funext finding
    rw [attach, attach, same]
  rw [classify, classify, dispositions, attached]

/-- The policies make the same of every finding; only the waivers they attach may differ. -/
structure DiffersInWaivers
    (other policy : Policy)
    (level : Level)
    (now : Instant) : Prop where
  dispositions : ∀ finding,
    other.disposition level now finding = policy.disposition level now finding
  violations : ∀ findings,
    (other.classify level now findings).violations =
      (policy.classify level now findings).violations
  warnings : ∀ findings,
    (other.classify level now findings).warnings.map
        (fun classified => (classified.finding, classified.level, classified.waiver?.isSome)) =
      (policy.classify level now findings).warnings.map
        fun classified => (classified.finding, classified.level, classified.waiver?.isSome)

section Reordering

variable {policy other : Policy} (reordered : other.entries.Perm policy.entries)
include reordered

/-- Exceptions in another order stop the same findings. -/
theorem blocks_iff_of_perm
    (level : Level)
    (now : Instant)
    (finding : Finding) :
    other.Blocks level now finding ↔ policy.Blocks level now finding := by
  have sameInstant : now.notAfter now = true := Std.ReflCmp.isLE_rfl
  constructor
  · exact Relaxes.blocks ⟨reordered.symm.subset, Nat.le_refl _, sameInstant⟩
  · exact Relaxes.blocks ⟨reordered.subset, Nat.le_refl _, sameInstant⟩

/-- Exceptions in another order let the same findings pass. -/
theorem isSome_waiver?_of_perm
    (level : Level)
    (now : Instant)
    (finding : Finding) :
    (other.attach level now finding).waiver?.isSome =
      (policy.attach level now finding).waiver?.isSome := by
  rw [Bool.eq_iff_iff, isSome_waiver?_attach_iff, isSome_waiver?_attach_iff]
  simp only [reordered.mem_iff]

theorem differsInWaivers_of_perm
    (level : Level)
    (now : Instant) :
    DiffersInWaivers other policy level now where
  dispositions := by
    intro finding
    have violation_iff : other.disposition level now finding = .violation ↔
        policy.disposition level now finding = .violation := by
      rw [disposition_eq_violation_iff, disposition_eq_violation_iff,
        blocks_iff_of_perm reordered]
    cases become : policy.disposition level now finding with
    | violation => exact violation_iff.mpr become
    | warning =>
      cases otherwise : other.disposition level now finding with
      | warning => rfl
      | violation =>
        rw [violation_iff.mp otherwise] at become
        cases become
  violations := by
    intro findings
    simp only [violations_eq, blocks_iff_of_perm reordered]
  warnings := by
    intro findings
    rw [classify_warnings, classify_warnings, List.map_map, List.map_map]
    simp only [blocks_iff_of_perm reordered]
    apply List.map_congr_left
    intro finding _
    simp only [Function.comp_apply, isSome_waiver?_of_perm reordered]
    rfl

end Reordering

/-- A policy that cannot be loaded is replaced by the empty one. -/
theorem load_policy_of_error
    {tree : Tree}
    {failure : Failure}
    (there : tree.holds Settings.exceptionsPath = true)
    (fails : readFrom tree = .error failure)
    (now : Instant) :
    (load tree now).policy = empty := by
  rw [load, if_pos there, fails]

/-- How strict a judgement is: ended exceptions do not count; one more exception, a lower level and
an earlier instant let no finding become a violation; the order of the exceptions changes nothing but
waivers; and a policy that cannot be loaded is as strict as any. -/
theorem classify_strictness
    (policy : Policy)
    (level : Level)
    (now : Instant) :
    (∀ findings, (policy.unexpired now).classify level now findings =
        policy.classify level now findings) ∧
      (∀ entry, NoStricter (policy.add entry) level now policy level now) ∧
      (∀ lower : Level, lower.rank ≤ level.rank → NoStricter policy lower now policy level now) ∧
      (∀ earlier : Instant, earlier.notAfter now = true →
        NoStricter policy level earlier policy level now) ∧
      (∀ other : Policy, other.entries.Perm policy.entries →
        DiffersInWaivers other policy level now) ∧
      ∀ tree failure, tree.holds Settings.exceptionsPath = true →
        readFrom tree = .error failure → ∀ findings,
          (policy.classify level now findings).violations.Sublist
            ((load tree now).policy.classify level now findings).violations := by
  have sameInstant : now.notAfter now = true := Std.ReflCmp.isLE_rfl
  refine ⟨?_, ?_, ?_, ?_, ?_, ?_⟩
  · intro findings
    exact classify_congr (policy.exceptionFor?_unexpired now) level findings
  · intro entry
    exact Relaxes.noStricter ⟨List.subset_append_left _ _, Nat.le_refl _, sameInstant⟩
  · intro lower notAbove
    exact Relaxes.noStricter ⟨List.Subset.refl _, notAbove, sameInstant⟩
  · intro earlier before
    exact Relaxes.noStricter ⟨List.Subset.refl _, Nat.le_refl _, before⟩
  · intro other reordered
    exact differsInWaivers_of_perm reordered level now
  · intro tree failure there fails findings
    rw [load_policy_of_error there fails]
    exact (Relaxes.noStricter ⟨List.nil_subset _, Nat.le_refl _, sameInstant⟩).violations_sublist
      findings

/-- An exception for the naming gate that has ended, and one for a rule of any gate that has not.
A day earlier, or at the lowest level, no finding is a violation; with a policy that cannot be read,
both are. -/
theorem classify_strictness_two_exceptions :
    let ended : PolicyEntry :=
      ⟨⟨none, "naming", ⟨[], [], none⟩, "old", "lead", ⟨⟨2026, 5, 4⟩, 0, 0⟩⟩, []⟩
    let live : PolicyEntry :=
      ⟨⟨none, "*", ⟨[], ["RULE"], none⟩, "tracked", "lead", ⟨⟨2030, 1, 1⟩, 0, 0⟩⟩, []⟩
    let policy : Policy := ⟨[ended, live]⟩
    let now : Instant := ⟨⟨2026, 5, 4⟩, 43200, 0⟩
    let earlier : Instant := ⟨⟨2026, 5, 3⟩, 43200, 0⟩
    let findings :=
      [Finding.ofFile .naming "RULE" "message" "src/a.rs",
        Finding.ofFile .naming "OTHER" "message" "src/a.rs"]
    let tree : Tree :=
      ⟨"/project", [([".qgate"], .folder), ([".qgate", "exceptions.json"], .file (.text "no"))]⟩
    let count (policy : Policy) (level : Level) (now : Instant) : Nat :=
      (policy.classify level now findings).violations.length
    [count policy .block now, count policy .warning now, count policy .block earlier,
        count ⟨[live, ended]⟩ .block now, count (load tree now).policy .block now] =
          [1, 0, 0, 1, 2] ∧
      (policy.unexpired now).entries.length = 1 ∧
      NoStricter policy .warning now policy .block now ∧
      NoStricter policy .block earlier policy .block now ∧
      DiffersInWaivers ⟨[live, ended]⟩ policy .block now ∧
      (policy.classify .block now findings).violations.Sublist
        ((load tree now).policy.classify .block now findings).violations := by
  intro ended live policy now earlier findings tree count
  obtain ⟨-, -, lowered, moved, reordered, replaced⟩ := classify_strictness policy .block now
  refine ⟨by decide +kernel, by decide +kernel, lowered .warning (by decide),
    moved earlier (by decide), reordered _ (List.Perm.swap ended live []), ?_⟩
  exact replaced tree _ (by decide) rfl findings

end Policy
end QualityGate
