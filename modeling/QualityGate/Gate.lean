import QualityGate.Failure

/-!
# Gates

The closed set of quality gates, their names, and lists of gates in writing.
-/

namespace QualityGate

/-- A quality gate. -/
inductive Gate where
  | naming
  | duplication
  | godObject
  | hiddenTodo
  | documentation
  | placeholder
deriving Repr, DecidableEq, Inhabited

namespace Gate

/-- Every gate, in the order of execution and of reports. -/
def all : List Gate :=
  [.naming, .duplication, .godObject, .hiddenTodo, .documentation, .placeholder]

@[simp] theorem mem_all (gate : Gate) : gate ∈ all := by
  cases gate <;> decide

/-- The name of a gate. -/
def name : Gate → String
  | .naming => "naming"
  | .duplication => "duplication"
  | .godObject => "god_object"
  | .hiddenTodo => "hidden_todo"
  | .documentation => "documentation"
  | .placeholder => "placeholder"

/-- What a gate looks for. -/
def description : Gate → String
  | .naming => "Banned name modifiers and symbol naming conventions"
  | .duplication => "Duplicated code blocks and near-identical files"
  | .godObject => "Oversized files and size regressions against the baseline"
  | .hiddenTodo => "Hidden TODOs, disguised incomplete work and stub code"
  | .documentation =>
    "Marketing language, unfounded claims, misplaced status docs, decorative symbols"
  | .placeholder => "Placeholder schema, registry, debt budget and dangling promises"

/-- The place of a gate in the order of execution. -/
def rank : Gate → Nat
  | .naming => 0
  | .duplication => 1
  | .godObject => 2
  | .hiddenTodo => 3
  | .documentation => 4
  | .placeholder => 5

/-- The names of all gates. -/
def validNames : List String :=
  all.map name

/-- The gates under their names. -/
def byName : List (String × Gate) :=
  all.map fun gate => (gate.name, gate)

/-- The gate with a name between blanks. -/
def parse (text : String) : Except Failure Gate :=
  let wanted := Text.trim text
  match all.find? fun gate => gate.name == wanted with
  | some gate => .ok gate
  | none => .error (.unknownGate wanted validNames)

/-- The gates of a list, each once and in the order of execution. -/
def canonical (gates : List Gate) : List Gate :=
  all.filter fun gate => gates.contains gate

/-- A canonical list has the gates of the list it was made of. -/
@[simp] theorem mem_canonical {gate : Gate} {gates : List Gate} :
    gate ∈ canonical gates ↔ gate ∈ gates := by
  simp [canonical]

/-- Gates in the order of execution. -/
def sorted (gates : List Gate) : List Gate :=
  gates.mergeSort fun first second => first.rank ≤ second.rank

/-- Names separated by commas; empty names do not count.  The first unknown name makes the whole
list fail.  Sorting brings equal gates together, of which one is kept. -/
def parseList (text : String) : Except Failure (List Gate) := do
  let names := ((Text.splitWhere (· == ',') text).map Text.trim).filter fun name => name != ""
  let gates ← names.mapM parse
  return (sorted gates).eraseReps

end Gate
end QualityGate
