import QualityGate.Decoder
import QualityGate.FileSet
import QualityGate.Json.Printer
import QualityGate.Language.Basic
import QualityGate.Settings

/-!
# Recorded sizes

The number of lines every source file had at some time, kept in a file of the project.
-/

namespace QualityGate
namespace Size

/-- The recorded sizes of files. -/
structure Baseline where
  generatedAt? : Option Instant
  files : Dictionary Nat
deriving Repr, DecidableEq, Inhabited

namespace Baseline

/-- The fields of recorded sizes. -/
def fields : List (Decoder.Field Baseline) :=
  [ .nullable "generatedAt" .instant fun value baseline =>
      { baseline with generatedAt? := value },
    .required "files" (.dictionary .size) fun value baseline =>
      { baseline with files := value } ]

/-- How recorded sizes are found in a document. -/
def decoder : Decoder Baseline :=
  Decoder.record "Baseline" default fields

/-- Read recorded sizes from a text. -/
def parse (text : String) : Except Fault Baseline :=
  decoder.parse text

/-- Recorded sizes as a document. -/
def toJson (baseline : Baseline) : Json :=
  .object
    [ ("generatedAt", .ofOption (fun instant => .text (Instant.zuluText instant))
        baseline.generatedAt?),
      ("files", .object (baseline.files.map fun (file, count) => (file, .natural count))) ]

/-- Recorded sizes in writing. -/
def render (baseline : Baseline) : String :=
  baseline.toJson.indented

/-- The recorded size of a file; a file that was never recorded counts as empty. -/
def linesFor (baseline : Baseline) (file : String) : Nat :=
  (Dictionary.find? file baseline.files).getD 0

/-- The recorded sizes of a project, if it has any. -/
def load (tree : Tree) : Except Failure (Option Baseline) :=
  if !tree.holds Settings.baselinePath then .ok none
  else
    match tree.read Settings.baselinePath with
    | .error fault => .error (.file fault)
    | .ok text =>
      match parse text with
      | .ok baseline => .ok (some baseline)
      | .error fault => .error (.json fault.message)

/-- Keep recorded sizes in the project. -/
def save (tree : Tree) (baseline : Baseline) : Except Failure Tree :=
  match tree.makeFolders Settings.stateDir with
  | .error fault => .error (.file fault)
  | .ok tree =>
    match tree.write Settings.baselinePath (.text baseline.render) with
    | .ok tree => .ok tree
    | .error fault =>
      .error (.report (Location.join tree.root Settings.baselinePath) fault.message)

end Baseline

/-- The file is source code of a known language. -/
def isSource (path : String) : Bool :=
  (Language.ofPath? path).isSome

/-- The sizes of the source files of a set. -/
def measure (tree : Tree) (files : FileSet) : Dictionary Nat :=
  Dictionary.ofList
    ((Source.load tree files isSource).map fun source => (source.display, source.lineCount))

/-- Record the sizes of the source files of a set. -/
def Baseline.capture (tree : Tree) (files : FileSet) (now : Instant) : Baseline :=
  ⟨some now, measure tree files⟩

end Size
end QualityGate
