import QualityGate.Policy.Basic
import QualityGate.Proofs.Gate

/-!
# Exceptions that never apply

An exception applies to the findings of a gate only if it names that gate, letter by letter, or all
gates.  An exception that can never apply is reported when its policy is loaded, unless it names a
gate with blanks around the name: the report reads past the blanks, and the comparison with a
finding does not.
-/

namespace QualityGate

theorem Gate.trim_name (gate : Gate) : Text.trim gate.name = gate.name := by
  cases gate <;> decide

namespace Exception

/-- The exception is about no gate. -/
def IsDead (exception : Exception) : Prop :=
  ∀ gate, exception.concerns gate = false

/-- The exception names a gate, but with blanks around the name. -/
def IsPadded (exception : Exception) : Prop :=
  ∃ gate : Gate, Text.trim exception.gate = gate.name ∧ exception.gate ≠ gate.name

instance (exception : Exception) : Decidable exception.IsDead :=
  decidable_of_iff (∀ gate ∈ Gate.all, exception.concerns gate = false) (by simp [IsDead])

instance (exception : Exception) : Decidable exception.IsPadded :=
  decidable_of_iff
    (∃ gate ∈ Gate.all, Text.trim exception.gate = gate.name ∧ exception.gate ≠ gate.name)
    (by simp [IsPadded])

theorem concerns_eq_false_iff (exception : Exception) (gate : Gate) :
    exception.concerns gate = false ↔ exception.gate ≠ "*" ∧ exception.gate ≠ gate.name := by
  simp [concerns, anyGate]

/-- An unknown gate is one that no name, read past the blanks around it, belongs to. -/
theorem namesUnknownGate_eq_true_iff (exception : Exception) :
    exception.namesUnknownGate = true ↔
      exception.gate ≠ "*" ∧ ∀ gate : Gate, Text.trim exception.gate ≠ gate.name := by
  rw [namesUnknownGate, Bool.and_eq_true, bne_iff_ne]
  refine and_congr_right fun _ => ?_
  simp only [ne_eq, ← Gate.parse_eq_ok_iff]
  cases Gate.parse exception.gate <;> simp

/-- Of the exceptions that are about no gate, those with blanks around a name go unnoticed. -/
theorem namesUnknownGate_iff_isDead (exception : Exception) :
    exception.namesUnknownGate = true ↔ exception.IsDead ∧ ¬exception.IsPadded := by
  simp only [namesUnknownGate_eq_true_iff, IsDead, IsPadded, concerns_eq_false_iff]
  constructor
  · rintro ⟨notAny, unknown⟩
    refine ⟨fun gate => ⟨notAny, fun named => unknown gate ?_⟩, ?_⟩
    · rw [named, gate.trim_name]
    · rintro ⟨gate, padded, -⟩
      exact unknown gate padded
  · rintro ⟨dead, unpadded⟩
    refine ⟨(dead default).1, fun gate named => unpadded ⟨gate, named, (dead gate).2⟩⟩

end Exception

/-- An exception that is about no gate covers no finding. -/
theorem PolicyEntry.covers_eq_false {entry : PolicyEntry} (dead : entry.exception.IsDead)
    (finding : Finding) : entry.covers finding = false := by
  simp [covers, dead finding.gate]

namespace Policy

theorem unknownGates_eq (policy : Policy) :
    policy.unknownGates =
      policy.exceptions.filter fun exception =>
        decide (exception.IsDead ∧ ¬exception.IsPadded) := by
  refine List.filter_congr fun exception _ => ?_
  rw [Bool.eq_iff_iff, decide_eq_true_iff, exception.namesUnknownGate_iff_isDead]

/-- What is said about the exceptions of a loaded policy that can never apply. -/
structure TellsOfDead (loaded : Loaded) (now : Instant) : Prop where
  /-- An exception that is about no gate covers nothing. -/
  uncovering : ∀ entry ∈ loaded.policy.entries, entry.exception.IsDead →
    ∀ finding, entry.covers finding = false
  /-- The gates that are called unknown are those of all such exceptions, except where blanks stand
  around the name of a gate. -/
  unknown : loaded.policy.unknownGates =
    loaded.policy.exceptions.filter fun exception =>
      decide (exception.IsDead ∧ ¬exception.IsPadded)
  /-- Each of them is noticed, behind the remarks on exceptions that have ended or on a policy that
  could not be loaded. -/
  noticed : ∃ others,
    loaded.notices = others ++ loaded.policy.unknownGates.map unknownGateNotice ∧
      (others = (loaded.policy.expired now).map expiredNotice ∨
        loaded.policy.entries = [] ∧ ∃ failure, others = [failureNotice failure])

/-- A policy that is loaded tells of the exceptions that can never apply, but for those that name a
gate with blanks around the name. -/
theorem load_tellsOfDead (tree : Tree) (now : Instant) : TellsOfDead (load tree now) now where
  uncovering _ _ dead finding := PolicyEntry.covers_eq_false dead finding
  unknown := unknownGates_eq _
  noticed := by
    unfold load
    split
    · cases readFrom tree with
      | ok policy => exact ⟨_, rfl, .inl rfl⟩
      | error failure => exact ⟨[failureNotice failure], rfl, .inr ⟨rfl, failure, rfl⟩⟩
    · exact ⟨[], rfl, .inl rfl⟩

set_option maxRecDepth 20000 in
/-- Two exceptions that can never apply: one for all gates and one for a gate, both of them written
between blanks.  The second one goes unnoticed. -/
theorem load_tellsOfDead_of_padded_gates :
    let now : Instant := ⟨⟨2026, 5, 4⟩, 43200, 0⟩
    let written (gate : String) : String :=
      "\x7b\"gate\":\"" ++ gate ++
        "\",\"reason\":\"\",\"approvedBy\":\"\",\"expiresAt\":\"2030-01-01T00:00:00Z\"\x7d"
    let tree : Tree :=
      ⟨"/project", [([".qgate"], .folder), ([".qgate", "exceptions.json"], .file (.text
        ("\x7b\"exceptions\":[" ++ written " * " ++ "," ++ written " naming" ++ "]\x7d")))]⟩
    let exception (gate : String) : Exception := ⟨none, gate, default, "", "", ⟨⟨2030, 1, 1⟩, 0, 0⟩⟩
    let policy : Policy := ⟨[⟨exception " * ", []⟩, ⟨exception " naming", []⟩]⟩
    TellsOfDead (load tree now) now ∧
      readFrom tree = .ok policy ∧
      (∀ exception ∈ policy.exceptions, exception.IsDead) ∧
      policy.unknownGates = [exception " * "] := by
  dsimp only
  refine ⟨load_tellsOfDead _ _, ?_, ?_, ?_⟩
  · rfl
  · decide
  · rfl

end Policy
end QualityGate
