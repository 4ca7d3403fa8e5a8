import QualityGate.Failure
import QualityGate.Text.Bytes

/-!
# Asking git

Which files are staged, about to be pushed, or tracked.  Git is asked by a command line and answers
with bytes; the answers are lists with a zero byte after every field.
-/

namespace QualityGate
namespace Git

/-! ## Answers -/

/-- The fields of an answer. -/
def fields (output : String) : List String :=
  (Text.splitWhere (fun character => character.toNat == 0) output).filter fun field => field != ""

/-- The status has two paths, an old and a new one. -/
def isPaired (status : String) : Bool :=
  Text.startsWith status "R" || Text.startsWith status "C"

/-- The paths in the fields of an answer with a status before each path; of two paths the new one.
An incomplete entry at the end does not count. -/
def changedPaths : List String → List String
  | status :: first :: rest =>
    if isPaired status then
      match rest with
      | second :: others => second :: changedPaths others
      | [] => []
    else first :: changedPaths rest
  | _ => []

/-- The paths in an answer with states. -/
def parseChanges (output : String) : List String :=
  changedPaths (fields output)

/-- The paths in an answer without states. -/
def parseList (output : String) : List String :=
  fields output

/-! ## Questions -/

/-- A question to git. -/
inductive Query where
  | workTree
  | staged
  | pushRange (pushBase? : Option String)
  | tracked
deriving Repr, DecidableEq

namespace Query

/-- The arguments of the command line. -/
def arguments : Query → List String
  | .workTree => ["rev-parse", "--is-inside-work-tree"]
  | .staged =>
    ["diff", "--cached", "--name-status", "--relative", "-z", "--diff-filter=ACMR", "-M"]
  | .pushRange pushBase? =>
    ["diff", "--name-status", "--relative", "-z", "--diff-filter=ACMR", "-M",
      pushBase?.getD "@\x7bupstream\x7d" ++ "...HEAD"]
  | .tracked => ["ls-files", "-z"]

/-- The name of the question in failures. -/
def operation : Query → String
  | .workTree => "rev-parse"
  | .staged => "diff --cached"
  | .pushRange _ => "diff (push range)"
  | .tracked => "ls-files"

end Query

/-- What git wrote, and its exit code. -/
structure Reply where
  output : List UInt8
  errors : List UInt8
  code : Nat

/-- A way to ask git; nothing if it cannot be started. -/
abbrev Runner := Query → Option Reply

/-- The text git answers to a question. -/
def ask (runner : Runner) (query : Query) : Except Failure String :=
  match runner query with
  | none => .error (.git query.operation FileFault.missing.message)
  | some reply =>
    if reply.code == 0 then .ok (Text.ofBytes reply.output)
    else .error (.git query.operation (Text.trim (Text.ofBytes reply.errors)))

end Git

/-- What git says about a project. -/
structure Git where
  isAvailable : Bool
  staged : Except Failure (List String)
  pushRange : Option String → Except Failure (List String)
  tracked : Except Failure (List String)

namespace Git

/-- There is no git. -/
def missing : Git :=
  { isAvailable := false
    staged := .ok []
    pushRange := fun _ => .ok []
    tracked := .ok [] }

/-- What git says when it is asked by a runner.  It has to be installed and the project has to be in
a work tree. -/
def ofRunner (installed : Bool) (runner : Runner) : Git :=
  { isAvailable := installed &&
      match ask runner .workTree with
      | .ok output => Text.trim output == "true"
      | .error _ => false
    staged := (ask runner .staged).map parseChanges
    pushRange := fun pushBase? => (ask runner (.pushRange pushBase?)).map parseChanges
    tracked := (ask runner .tracked).map parseList }

end Git
end QualityGate
