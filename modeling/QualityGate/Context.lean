import QualityGate.Dictionary
import QualityGate.Gate
import QualityGate.Text.Letter

/-!
# Contexts and enforcement

Where a run takes place decides which files it looks at and how strictly the gates are enforced.
-/

namespace QualityGate

/-- How strictly the findings of a gate are enforced. -/
inductive Level where
  | warning
  | fail
  | block
deriving Repr, DecidableEq, Inhabited

namespace Level

/-- The name of a level. -/
def name : Level → String
  | .warning => "warning"
  | .fail => "fail"
  | .block => "block"

/-- The levels under their names. -/
def byName : List (String × Level) :=
  [Level.warning, .fail, .block].map fun level => (level.name, level)

/-- Findings at this level become violations. -/
def isBlocking : Level → Bool
  | .warning => false
  | .fail => true
  | .block => true

end Level

/-- The occasion of a run. -/
inductive Context where
  | commit
  | push
  | ci
deriving Repr, DecidableEq, Inhabited

namespace Context

/-- All contexts. -/
def all : List Context :=
  [.commit, .push, .ci]

/-- The name of a context. -/
def name : Context → String
  | .commit => "commit"
  | .push => "push"
  | .ci => "ci"

/-- The contexts under their names. -/
def byName : List (String × Context) :=
  all.map fun context => (context.name, context)

/-- The value of the indicator says that this is continuous integration. -/
def indicatesCi (value : String) : Bool :=
  let trimmed := Text.trim value
  trimmed != "" && trimmed != "0" && !Text.equalIgnoringCase trimmed "false"

/-- The context when none is given: the indicator wins over the push flag. -/
def infer (indicator? : Option String) (push : Bool) : Context :=
  if indicator?.any indicatesCi then .ci else if push then .push else .commit

/-- The level of gates without one of their own. -/
def defaultLevel : Context → Level
  | .commit => .warning
  | .push => .fail
  | .ci => .block

/-- The context with a name, in any case and between blanks; otherwise a message. -/
def parse (text : String) : Except String Context :=
  let wanted := Text.lower (Text.trim text)
  match all.find? fun context => context.name == wanted with
  | some context => .ok context
  | none => .error ("unknown context '" ++ wanted ++ "': expected commit, push or ci")

end Context

/-- Levels of one gate for some contexts. -/
structure ContextLevels where
  commit? : Option Level
  push? : Option Level
  ci? : Option Level
deriving Repr, DecidableEq, Inhabited

namespace ContextLevels

/-- The level for a context. -/
def get? (levels : ContextLevels) : Context → Option Level
  | .commit => levels.commit?
  | .push => levels.push?
  | .ci => levels.ci?

end ContextLevels

/-- The level of every gate in one run. -/
structure Enforcement where
  context : Context
  overrides : Dictionary ContextLevels

namespace Enforcement

/-- The level of a gate: its own for the context, otherwise the context's. -/
def level (enforcement : Enforcement) (gate : Gate) : Level :=
  ((Dictionary.find? gate.name enforcement.overrides).bind fun levels =>
    levels.get? enforcement.context).getD enforcement.context.defaultLevel

end Enforcement
end QualityGate
