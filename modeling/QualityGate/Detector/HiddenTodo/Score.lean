import QualityGate.Dictionary
import QualityGate.Location

/-!
# Confidence

The confidence in a group of lines is the sum of its signals between minus one and one.  Every
signal counts once, and the sum is taken in the order of their names, so that it does not depend on
the order in which they were found.
-/

namespace QualityGate
namespace HiddenTodo

/-- The signals of a group of lines with their weights. -/
structure Score where
  signals : Dictionary Float
deriving Inhabited

namespace Score

/-- No signal. -/
def empty : Score :=
  ⟨[]⟩

/-- A signal was seen. -/
def has (score : Score) (id : String) : Bool :=
  Dictionary.holds id score.signals

/-- Add a signal; one that was seen before stays as it is. -/
def add (score : Score) (id : String) (weight : Float) : Score :=
  if score.has id then score else ⟨Dictionary.insert id weight score.signals⟩

/-- A signal that was seen before changes nothing. -/
theorem add_of_has {score : Score} {id : String} (seen : score.has id = true) (weight : Float) :
    score.add id weight = score := by
  simp [add, seen]

/-- Add a signal if it applies. -/
def addIf (score : Score) (applies : Bool) (id : String) (weight : Float) : Score :=
  if applies then score.add id weight else score

/-- Keep a number between minus one and one. -/
def clamp (value : Float) : Float :=
  if value < -1.0 then -1.0 else if value > 1.0 then 1.0 else value

/-- The sum of all signals between minus one and one. -/
def confidence (score : Score) : Float :=
  clamp (score.signals.foldl (fun total signal => total + signal.2) (-0.0))

end Score

/-- What kind of file a line is in. -/
structure FileKind where
  test : Bool
  sample : Bool
  documentation : Bool
  generated : Bool
deriving Repr, DecidableEq

namespace FileKind

/-- The folders on the way to a file, in lowercase. -/
def foldersOf (path : String) : List String :=
  (((Location.components path).dropLast).filterMap Component.name?).map Text.lower

/-- One of the first lines says that the file is generated. -/
def hasBanner (content : String) : Bool :=
  ((Text.lines content).take 5).any fun line =>
    ["@generated", "do not edit", "auto-generated", "autogenerated"].any
      (Text.contains (Text.lower line))

/-- The kind of a file by its path and its first lines. -/
def ofFile (path content : String) : FileKind :=
  let folders := foldersOf path
  let inFolder (names : List String) : Bool := folders.any names.contains
  let name := Text.lower ((Location.fileName? path).getD "")
  let stem := String.ofList (name.toList.takeWhile (· != '.'))
  let testName :=
    Text.startsWith stem "test_" || Text.endsWith stem "_test" || Text.endsWith stem "_spec" ||
      Text.contains name ".test." || Text.contains name ".spec."
  let generatedName :=
    Text.contains name ".generated." || Text.contains name ".pb." || Text.endsWith stem "_pb2"
  { test := testName || inFolder ["test", "tests", "__tests__", "spec", "specs", "testdata"]
    sample := inFolder ["example", "examples", "demo", "demos", "sample", "samples"]
    documentation := inFolder ["doc", "docs", "documentation"]
    generated :=
      generatedName || hasBanner content || inFolder ["generated", "gen", "__generated__"] }

/-- Add the signals of a kind of file. -/
def apply (kind : FileKind) (score : Score) : Score :=
  score.addIf kind.test "context_test_file" (-0.2)
    |>.addIf kind.sample "context_example_file" (-0.4)
    |>.addIf kind.documentation "context_documentation_file" (-0.4)
    |>.addIf kind.generated "context_generated_file" (-0.6)

end FileKind

/-- The text of a comment behind its marker goes on like a documentation comment. -/
def isDocComment (comment : String) : Bool :=
  comment.toList.head?.any ['/', '!', '*'].contains

end HiddenTodo
end QualityGate
