import QualityGate.Finding
import QualityGate.Glob

/-!
# Exceptions

An exception lets findings pass for a while.  It names a gate or all gates, may be limited to some
files, rules and messages, and ends at an instant.
-/

namespace QualityGate

/-- What an exception is limited to; an empty list is no limit. -/
structure MatchRule where
  files : List String
  rules : List String
  messageContains? : Option String
deriving Repr, DecidableEq, Inhabited

/-- A justified exception that ends. -/
structure Exception where
  id? : Option String
  gate : String
  matchRule : MatchRule
  reason : String
  approvedBy : String
  expiresAt : Instant
deriving Inhabited

namespace MatchRule

/-- How the limits of an exception are found in a document. -/
def decoder : Decoder MatchRule :=
  Decoder.record "MatchRule" default
    [ .defaulted "files" (.sequence .text) fun value rule => { rule with files := value },
      .defaulted "rules" (.sequence .text) fun value rule => { rule with rules := value },
      .defaulted "messageContains" (.optional .text) fun value rule =>
        { rule with messageContains? := value } ]

end MatchRule

namespace Exception

/-- The gate of an exception for all gates. -/
def anyGate : String := "*"

/-- How an exception is found in a document. -/
def decoder : Decoder Exception :=
  Decoder.record "Exception" default
    [ .defaulted "id" (.optional .text) fun value exception => { exception with id? := value },
      .required "gate" .text fun value exception => { exception with gate := value },
      .defaulted "matchRule" MatchRule.decoder fun value exception =>
        { exception with matchRule := value },
      .required "reason" .text fun value exception => { exception with reason := value },
      .required "approvedBy" .text fun value exception => { exception with approvedBy := value },
      .required "expiresAt" .instant fun value exception =>
        { exception with expiresAt := value } ]

/-- The exception does not apply any more. -/
def isExpired (exception : Exception) (now : Instant) : Bool :=
  exception.expiresAt.notAfter now

/-- The name of an exception in notices. -/
def label (exception : Exception) : String :=
  exception.id?.getD (exception.gate ++ " (" ++ exception.reason ++ ")")

/-- The exception names a gate that does not exist. -/
def namesUnknownGate (exception : Exception) : Bool :=
  exception.gate != anyGate &&
    match Gate.parse exception.gate with
    | .ok _ => false
    | .error _ => true

/-- The exception is about a gate. -/
def concerns (exception : Exception) (gate : Gate) : Bool :=
  exception.gate == anyGate || exception.gate == gate.name

end Exception
end QualityGate
