import QualityGate.Text.Basic

/-!
# Failures of a run

Only a failure to run is a failure; what a gate finds is ordinary data.
-/

namespace QualityGate

/-- Why a file operation failed. -/
inductive FileFault where
  | missing
  | exists
  | notFolder
  | isFolder
  | notText
deriving Repr, DecidableEq

namespace FileFault

/-- A file fault in words. -/
def message : FileFault → String
  | .missing => "No such file or directory (os error 2)"
  | .exists => "File exists (os error 17)"
  | .notFolder => "Not a directory (os error 20)"
  | .isFolder => "Is a directory (os error 21)"
  | .notText => "stream did not contain valid UTF-8"

end FileFault

/-- Why a run, or a part of it, could not be done. -/
inductive Failure where
  | config (message : String)
  | invalidConfig (field reason : String)
  | unknownGate (name : String) (valid : List String)
  | git (operation message : String)
  | policy (path message : String)
  | lockHeld (process : Nat) (since : String)
  | lock (message : String)
  | report (path message : String)
  | file (fault : FileFault)
  | json (message : String)
deriving Repr, DecidableEq

namespace Failure

/-- A failure in words. -/
def message : Failure → String
  | .config message => "Configuration error: " ++ message
  | .invalidConfig field reason => "Invalid configuration: " ++ field ++ " - " ++ reason
  | .unknownGate name valid =>
    "Unknown gate '" ++ name ++ "'. Valid gates: " ++ String.intercalate ", " valid
  | .git operation message => "Git operation failed: " ++ operation ++ " - " ++ message
  | .policy path message => "Exception policy error in " ++ path ++ ": " ++ message
  | .lockHeld process since =>
    "Another qgate run (pid " ++ Text.decimal process ++ ") has held the lock since " ++ since ++
      ". Wait for it to finish, re-run with --force to bypass the lock, or remove it with " ++
      "`qgate lock clear` if that process is gone"
  | .lock message => "Run lock error: " ++ message
  | .report path message => "Failed to write report to " ++ path ++ ": " ++ message
  | .file fault => fault.message
  | .json message => message

/-- The run can go on without what failed. -/
def isRecoverable : Failure → Bool
  | .git _ _ => true
  | .policy _ _ => true
  | .config _ => true
  | _ => false

/-- The exit code of a run without violations. -/
def exitPassed : Nat := 0

/-- The exit code of a run with violations. -/
def exitViolations : Nat := 1

/-- The exit code of a failure to run. -/
def exitFailed : Nat := 2

/-- The exit code of a failure. -/
def exitCode (_ : Failure) : Nat :=
  exitFailed

end Failure
end QualityGate
