import QualityGate.Settings
import QualityGate.Toml.Reader
import QualityGate.Tree

/-!
# The settings of a project

A project without a settings file has the defaults.  Settings that were read satisfy their
constraints.
-/

namespace QualityGate
namespace Settings

/-- Read settings; the constraints between them are not checked.  A failure says only whether the
text is no document at all or one with a wrong value: where in the text, and what was expected
there, is left out. -/
def parse (content : String) : Except Failure Settings :=
  match Toml.parse content with
  | none => .error (.config "the settings are not well formed")
  | some document =>
    match decoder.fromToml document with
    | none => .error (.config "a setting has a value of the wrong kind")
    | some settings => .ok settings

/-- Settings that satisfy their constraints. -/
def checked (settings : Settings) : Except Failure Settings := do
  settings.validate
  return settings

/-- Load the settings of a project. -/
def load (tree : Tree) : Except Failure Settings :=
  if tree.holds configPath then do
    let content ← (tree.read configPath).mapError .file
    let settings ← parse content
    settings.checked
  else .ok {}

/-- The settings of a project and a notice if they are replaced by the defaults. -/
def loadOrDefault (tree : Tree) : Settings × Option String :=
  match load tree with
  | .ok settings => (settings, none)
  | .error failure =>
    ({}, some ("Configuration ignored, using defaults: " ++ failure.message))

end Settings
end QualityGate
