import QualityGate.Policy.Exception
import QualityGate.Settings
import QualityGate.Tree

/-!
# Policies

A policy is a list of exceptions.  Of several exceptions that cover a finding the first one that has
not ended counts.  A policy that cannot be read is the empty one, which is the strictest.
-/

namespace QualityGate

/-- An exception with the globs of its files. -/
structure PolicyEntry where
  exception : Exception
  globs : List Glob

/-- A list of exceptions. -/
structure Policy where
  entries : List PolicyEntry

namespace PolicyEntry

/-- Read the globs of an exception; the first one that is no glob is reported. -/
def ofException (exception : Exception) : Except String PolicyEntry := do
  let globs ← exception.matchRule.files.mapM fun text =>
    (Glob.parse .plain text).mapError (Glob.faultMessage text)
  return ⟨exception, globs⟩

/-- The exception is about the finding, whether it has ended or not. -/
def covers (entry : PolicyEntry) (finding : Finding) : Bool :=
  let rule := entry.exception.matchRule
  entry.exception.concerns finding.gate &&
    (rule.rules.isEmpty || rule.rules.contains finding.rule) &&
    (rule.files.isEmpty || entry.globs.any fun glob => glob.accepts finding.file) &&
    rule.messageContains?.all fun part => Text.contains finding.message part

end PolicyEntry

namespace Policy

/-- The policy without exceptions. -/
def empty : Policy :=
  ⟨[]⟩

/-- The exceptions of a policy. -/
def exceptions (policy : Policy) : List Exception :=
  policy.entries.map PolicyEntry.exception

/-- The exceptions that have ended. -/
def expired (policy : Policy) (now : Instant) : List Exception :=
  policy.exceptions.filter fun exception => exception.isExpired now

/-- The exceptions that name a gate that does not exist. -/
def unknownGates (policy : Policy) : List Exception :=
  policy.exceptions.filter Exception.namesUnknownGate

/-- The first exception that covers the finding and has not ended. -/
def exceptionFor? (policy : Policy) (finding : Finding) (now : Instant) : Option Exception :=
  (policy.entries.find? fun entry =>
    !entry.exception.isExpired now && entry.covers finding).map PolicyEntry.exception

/-! ## Reading -/

/-- How the exceptions of a policy are found in a document. -/
def decoder : Decoder (List Exception) :=
  Decoder.record "PolicyFile" []
    [.defaulted "exceptions" (.sequence Exception.decoder) fun value _ => value]

/-- Read a policy; failures name its origin. -/
def parse (origin content : String) : Except Failure Policy :=
  match decoder.parse content with
  | .error fault => .error (.policy origin fault.message)
  | .ok exceptions =>
    match exceptions.mapM PolicyEntry.ofException with
    | .error message => .error (.policy origin message)
    | .ok entries => .ok ⟨entries⟩

/-- A policy that was loaded, and remarks on it. -/
structure Loaded where
  policy : Policy
  notices : List String

/-- The remark on an exception that has ended. -/
def expiredNotice (exception : Exception) : String :=
  "Exception " ++ exception.label ++ " expired at " ++ exception.expiresAt.offsetText ++
    " and no longer applies"

/-- The remark on an exception for a gate that does not exist. -/
def unknownGateNotice (exception : Exception) : String :=
  "Exception " ++ exception.label ++ " names unknown gate '" ++ exception.gate ++
    "' and never applies (valid: " ++ String.intercalate ", " Gate.validNames ++ ")"

/-- The remark on a policy that cannot be loaded. -/
def failureNotice (failure : Failure) : String :=
  "Exception policy could not be loaded (" ++ failure.message ++ "); no exceptions applied"

/-- A policy with the remarks on its exceptions. -/
def withNotices (policy : Policy) (now : Instant) : Loaded :=
  ⟨policy, (policy.expired now).map expiredNotice ++ policy.unknownGates.map unknownGateNotice⟩

/-- Read the policy of a project. -/
def readFrom (tree : Tree) : Except Failure Policy :=
  match tree.read Settings.exceptionsPath with
  | .error fault => .error (.file fault)
  | .ok content => parse (Location.join tree.root Settings.exceptionsPath) content

/-- Load the policy of a project.  Without a file there are no exceptions, and a policy that cannot
be read is replaced by the empty one. -/
def load (tree : Tree) (now : Instant) : Loaded :=
  if tree.holds Settings.exceptionsPath then
    match readFrom tree with
    | .ok policy => policy.withNotices now
    | .error failure => ⟨empty, [failureNotice failure]⟩
  else ⟨empty, []⟩

end Policy
end QualityGate
