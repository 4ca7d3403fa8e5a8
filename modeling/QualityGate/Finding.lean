import QualityGate.Decoder
import QualityGate.Gate
import QualityGate.Json.Printer

/-!
# Findings

What a detector reports, before any policy: which rule was broken, where, and how sure that is.
-/

namespace QualityGate

/-- How bad a finding is.  Only errors can become violations. -/
inductive Severity where
  | info
  | warning
  | error
deriving Repr, DecidableEq, Inhabited

namespace Severity

/-- The name of a severity. -/
def name : Severity → String
  | .info => "info"
  | .warning => "warning"
  | .error => "error"

/-- The severities under their names. -/
def byName : List (String × Severity) :=
  [Severity.info, .warning, .error].map fun severity => (severity.name, severity)

/-- The severity only advises. -/
def isAdvisory : Severity → Bool
  | .info => true
  | .warning => true
  | .error => false

end Severity

/-- A finding of a detector. -/
structure Finding where
  gate : Gate
  rule : String
  message : String
  file : String
  line? : Option Nat
  severity? : Option Severity
  confidence? : Option Float
  suggestion? : Option String
deriving Repr, Inhabited

namespace Finding

/-- A finding about a whole file. -/
def ofFile (gate : Gate) (rule message file : String) : Finding :=
  ⟨gate, rule, message, file, none, none, none, none⟩

/-- The finding only advises; a finding without a severity does not. -/
def isAdvisory (finding : Finding) : Bool :=
  finding.severity?.any Severity.isAdvisory

/-- The finding at a line. -/
def atLine (finding : Finding) (line : Nat) : Finding :=
  { finding with line? := some line }

/-- The finding with a severity. -/
def withSeverity (finding : Finding) (severity : Severity) : Finding :=
  { finding with severity? := some severity }

/-- The finding with a confidence. -/
def withConfidence (finding : Finding) (confidence : Float) : Finding :=
  { finding with confidence? := some confidence }

/-- The finding with a suggestion. -/
def withSuggestion (finding : Finding) (suggestion : String) : Finding :=
  { finding with suggestion? := some suggestion }

/-! ## Order -/

/-- The order of lines; no line comes first. -/
def compareLines : Option Nat → Option Nat → Ordering
  | none, none => .eq
  | none, some _ => .lt
  | some _, none => .gt
  | some first, some second => compare first second

/-- The order of findings in reports: gate, file, line, rule, message. -/
def reportOrder (first second : Finding) : Ordering :=
  (compare first.gate.rank second.gate.rank).then <|
    (compare first.file second.file).then <|
      (compareLines first.line? second.line?).then <|
        (compare first.rule second.rule).then (compare first.message second.message)

/-- Findings in the order of reports; equal ones keep their order. -/
def sorted (findings : List Finding) : List Finding :=
  findings.mergeSort fun first second => (first.reportOrder second).isLE

/-! ## Documents -/

/-- The fields of a finding in a document. -/
def fields : List (Decoder.Field Finding) :=
  [ .required "gate" (.choice Gate.byName) fun value finding => { finding with gate := value },
    .required "type" .text fun value finding => { finding with rule := value },
    .required "message" .text fun value finding => { finding with message := value },
    .required "file" .text fun value finding => { finding with file := value },
    .defaulted "line" (.optional .natural32) fun value finding => { finding with line? := value },
    .defaulted "severity" (.optional (.choice Severity.byName)) fun value finding =>
      { finding with severity? := value },
    .defaulted "confidence" (.optional .float) fun value finding =>
      { finding with confidence? := value },
    .defaulted "suggestion" (.optional .text) fun value finding =>
      { finding with suggestion? := value } ]

/-- How a finding is found in a document. -/
def decoder : Decoder Finding :=
  Decoder.record "Finding" default fields

/-- A member of an object for a value that may be missing. -/
def member? (key : String) (value? : Option Json) : List (String × Json) :=
  match value? with
  | some value => [(key, value)]
  | none => []

/-- The members of a finding in a document; missing values are left out. -/
def members (finding : Finding) : List (String × Json) :=
  [("gate", .text finding.gate.name), ("type", .text finding.rule),
      ("message", .text finding.message), ("file", .text finding.file)] ++
    member? "line" (finding.line?.map .natural) ++
    member? "severity" (finding.severity?.map fun severity => .text severity.name) ++
    member? "confidence" (finding.confidence?.map .float) ++
    member? "suggestion" (finding.suggestion?.map .text)

end Finding

/-- What a scan brings back: findings, and remarks on checks that were skipped. -/
structure ScanResult where
  findings : List Finding
  notices : List String
deriving Inhabited

end QualityGate
