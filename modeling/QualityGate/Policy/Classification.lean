import QualityGate.Policy.Basic

/-!
# Classification

A finding is a violation or a warning.  A live exception makes it a warning and is recorded; a
finding that only advises is a warning; otherwise the level of its gate decides.
-/

namespace QualityGate

/-- The record of the exception that let a finding pass. -/
structure Waiver where
  exceptionId? : Option String
  reason : String
  approvedBy : String
  expiresAt : Instant
deriving Inhabited

namespace Waiver

/-- The record of an exception. -/
def ofException (exception : Exception) : Waiver :=
  ⟨exception.id?, exception.reason, exception.approvedBy, exception.expiresAt⟩

/-- How a record is found in a document. -/
def decoder : Decoder Waiver :=
  Decoder.record "Waiver" default
    [ .nullable "exceptionId" .text fun value waiver => { waiver with exceptionId? := value },
      .required "reason" .text fun value waiver => { waiver with reason := value },
      .required "approvedBy" .text fun value waiver => { waiver with approvedBy := value },
      .required "expiresAt" .instant fun value waiver => { waiver with expiresAt := value } ]

/-- A record in a document. -/
def toJson (waiver : Waiver) : Json :=
  .object
    [ ("exceptionId", .ofOption .text waiver.exceptionId?), ("reason", .text waiver.reason),
      ("approvedBy", .text waiver.approvedBy), ("expiresAt", .text waiver.expiresAt.zuluText) ]

end Waiver

/-- What becomes of a finding. -/
inductive Disposition where
  | violation
  | warning
deriving Repr, DecidableEq, Inhabited

namespace Disposition

/-- The name of a disposition. -/
def name : Disposition → String
  | .violation => "violation"
  | .warning => "warning"

end Disposition

/-- A finding with the level of its gate and the exception that covers it. -/
structure Classified where
  finding : Finding
  level : Level
  waiver? : Option Waiver
deriving Inhabited

namespace Classified

/-- How a classified finding is found in a document. -/
def decoder : Decoder Classified :=
  Decoder.record "ClassifiedFinding" default
    (Finding.fields.map (Decoder.Field.within Classified.finding fun finding classified =>
        { classified with finding := finding }) ++
      [ .required "level" (.choice Level.byName) fun value classified =>
          { classified with level := value },
        .defaulted "waiver" (.optional Waiver.decoder) fun value classified =>
          { classified with waiver? := value } ])

/-- A classified finding in a document. -/
def toJson (classified : Classified) : Json :=
  .object (classified.finding.members ++ [("level", .text classified.level.name)] ++
    Finding.member? "waiver" (classified.waiver?.map Waiver.toJson))

/-- Classified findings in the order of reports; equal ones keep their order. -/
def sorted (findings : List Classified) : List Classified :=
  findings.mergeSort fun first second => (first.finding.reportOrder second.finding).isLE

end Classified

/-- Classified findings, separated by what becomes of them. -/
structure Classification where
  violations : List Classified
  warnings : List Classified
deriving Inhabited

namespace Classification

/-- No findings. -/
def empty : Classification :=
  ⟨[], []⟩

/-- The findings of two classifications. -/
def append (first second : Classification) : Classification :=
  ⟨first.violations ++ second.violations, first.warnings ++ second.warnings⟩

/-- Every list in the order of reports. -/
def sorted (classification : Classification) : Classification :=
  ⟨Classified.sorted classification.violations, Classified.sorted classification.warnings⟩

end Classification

namespace Policy

/-- What becomes of a finding. -/
def disposition (policy : Policy) (level : Level) (now : Instant) (finding : Finding) :
    Disposition :=
  if (policy.exceptionFor? finding now).isSome then .warning
  else if finding.isAdvisory then .warning
  else if level.isBlocking then .violation
  else .warning

/-- A finding with its level and the record of the exception that covers it. -/
def attach (policy : Policy) (level : Level) (now : Instant) (finding : Finding) : Classified :=
  ⟨finding, level, (policy.exceptionFor? finding now).map Waiver.ofException⟩

/-- Classify the findings of one gate. -/
def classify (policy : Policy) (level : Level) (now : Instant) (findings : List Finding) :
    Classification :=
  let become (wanted : Disposition) : List Classified :=
    (findings.filter fun finding => policy.disposition level now finding == wanted).map
      (policy.attach level now)
  ⟨become .violation, become .warning⟩

/-- Every finding is classified on its own. -/
theorem classify_append
    (policy : Policy)
    (level : Level)
    (now : Instant)
    (first second : List Finding) :
    policy.classify level now (first ++ second) =
      (policy.classify level now first).append (policy.classify level now second) := by
  simp [classify, Classification.append]

end Policy
end QualityGate
