import QualityGate.Detector.Documentation
import QualityGate.Detector.Duplication
import QualityGate.Detector.HiddenTodo.Scan
import QualityGate.Detector.Naming.Scan
import QualityGate.Detector.Placeholder.Scan
import QualityGate.Detector.Size.Scan

/-!
# Detectors

Every gate has a detector, which looks at the files of a set.
-/

namespace QualityGate

/-- Scan the files of a set for one gate. -/
def Gate.scan
    (gate : Gate)
    (settings : Settings)
    (now : Instant)
    (tree : Tree)
    (files : FileSet) : ScanResult :=
  match gate with
  | .naming => Naming.scan settings.naming tree files
  | .duplication => Duplication.scan settings.duplication tree files
  | .godObject => Size.scan settings.size tree files
  | .hiddenTodo =>
    HiddenTodo.scan settings.hiddenTodo settings.placeholder.coverageWindow tree files
  | .documentation => Documentation.scan settings.documentation tree files
  | .placeholder => Placeholder.scan settings.placeholder now tree files

end QualityGate
