import QualityGate.Detector.Size.Baseline
import QualityGate.Finding

/-!
# The size gate

A file that is too long is reported in one of three tiers.  A file that was recorded below the
blocking size and has reached it since is a regression, which is reported in addition.
-/

namespace QualityGate
namespace Size

/-- How far a file is beyond the limits. -/
inductive Tier where
  | warning
  | critical
  | crisis
deriving Repr, DecidableEq

namespace Tier

/-- The rule of a tier. -/
def rule : Tier → String
  | .warning => "GOD_OBJECT_WARNING"
  | .critical => "GOD_OBJECT_CRITICAL"
  | .crisis => "GOD_OBJECT_CRISIS"

/-- The least number of lines of a tier. -/
def limit (settings : SizeSettings) : Tier → Nat
  | .warning => settings.warningLines
  | .critical => settings.criticalLines
  | .crisis => settings.crisisLines

/-- The severity of a tier; in crisis mode only the last tier is an error. -/
def severity (settings : SizeSettings) : Tier → Severity
  | .warning => .warning
  | .critical => if settings.crisisMode then .warning else .error
  | .crisis => .error

/-- The tier of a number of lines, if it is too large. -/
def ofLines? (settings : SizeSettings) (lines : Nat) : Option Tier :=
  if settings.crisisLines ≤ lines then some .crisis
  else if settings.criticalLines ≤ lines then some .critical
  else if settings.warningLines ≤ lines then some .warning
  else none

end Tier

/-- The size at which a file is an error. -/
def blockingThreshold (settings : SizeSettings) : Nat :=
  if settings.crisisMode then settings.crisisLines else settings.criticalLines

/-- The finding about the tier of a file. -/
def tierFinding? (settings : SizeSettings) (file : String) (lines : Nat) : Option Finding :=
  (Tier.ofLines? settings lines).map fun tier =>
    ((Finding.ofFile .godObject tier.rule
      ("File has " ++ Text.decimal lines ++ " lines (limit " ++
        Text.decimal (tier.limit settings) ++ ")")
      file).withSeverity (tier.severity settings)).withSuggestion
        "Split the file along its responsibilities"

/-- The finding about a file that has crossed the blocking size. -/
def regressionFinding?
    (settings : SizeSettings)
    (baseline : Baseline)
    (file : String)
    (lines : Nat) : Option Finding :=
  let threshold := blockingThreshold settings
  let before := baseline.linesFor file
  if threshold ≤ before || lines < threshold then none
  else
    some
      (((Finding.ofFile .godObject "GOD_OBJECT_REGRESSION"
        ("File grew from " ++ Text.decimal before ++ " to " ++ Text.decimal lines ++
          " lines, crossing the " ++ Text.decimal threshold ++ "-line threshold")
        file).withSeverity .error).withSuggestion
          "Revert the growth or split the file before it lands")

/-- The findings about one file. -/
def checkFile (settings : SizeSettings) (baseline? : Option Baseline) (source : Source) :
    List Finding :=
  let lines := source.lineCount
  (tierFinding? settings source.display lines).toList ++
    (baseline?.bind fun baseline =>
      regressionFinding? settings baseline source.display lines).toList

/-- The recorded sizes of a project, and a remark if there are none to compare with. -/
def baselineOrNotice (tree : Tree) : Option Baseline × List String :=
  match Baseline.load tree with
  | .ok (some baseline) => (some baseline, [])
  | .ok none =>
    (none, ["No god-object baseline found; regression check skipped (run `qgate baseline`)"])
  | .error failure =>
    (none, ["God-object baseline could not be read (" ++ failure.message ++
      "); regression check skipped"])

/-- Scan a set of files. -/
def scan (settings : SizeSettings) (tree : Tree) (files : FileSet) : ScanResult :=
  let (baseline?, notices) := baselineOrNotice tree
  ⟨(Source.load tree files isSource).flatMap (checkFile settings baseline?), notices⟩

end Size
end QualityGate
