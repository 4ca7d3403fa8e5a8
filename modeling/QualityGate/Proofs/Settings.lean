import QualityGate.Settings.Load
import QualityGate.Proofs.Effect
import QualityGate.Proofs.Number.Order

/-!
# Settings that satisfy their constraints

The constraints as conditions on the settings, and the settings that a project has: those of its
file if they can be read and satisfy the constraints, and the defaults if there is no file.  What is
loaded always satisfies the constraints, whatever the file holds.
-/

namespace QualityGate
namespace Settings

/-- A number is not between two bounds if it is below the lower or above the upper one, or NaN. -/
theorem within_eq_false_iff
    (low high : Float)
    (isLow : low.isNaN = false)
    (isHigh : high.isNaN = false)
    (value : Float) :
    within low high value = false ↔ value.isNaN = true ∨ value < low ∨ high < value := by
  simp only [within, Bool.and_eq_false_iff, decide_eq_false_iff_not, Number.not_le_iff, isLow,
    isHigh]
  tauto

/-- The constraints between settings. -/
structure IsConsistent (settings : Settings) : Prop where
  warning : settings.size.warningLines < settings.size.criticalLines
  critical : settings.size.criticalLines < settings.size.crisisLines
  threshold : within (-1.0) 1.0 settings.hiddenTodo.confidenceThreshold = true
  similarity : within 0.0 1.0 settings.duplication.fileSimilarity = true
  window : settings.duplication.windowLines ≠ 0

/-- The constraints are what is checked. -/
theorem validate_eq_ok_iff (settings : Settings) :
    settings.validate = .ok () ↔ settings.IsConsistent := by
  unfold validate
  constructor
  · intro valid
    constructor <;> grind
  · rintro ⟨warning, critical, threshold, similarity, window⟩
    simp [warning, critical, threshold, similarity, window]

theorem isConsistent_default : IsConsistent {} where
  warning := by decide
  critical := by decide
  threshold := by decide
  similarity := by decide
  window := by decide

/-! ## The settings of a project -/

/-- The settings that a project has: the defaults without a file, and else those of its file, if
they can be read and satisfy the constraints. -/
inductive OfProject (tree : Tree) : Settings → Prop where
  | absent (absent : tree.holds configPath = false) : OfProject tree {}
  | present
      {content : String}
      {settings : Settings}
      (present : tree.holds configPath = true)
      (read : tree.read configPath = .ok content)
      (parsed : parse content = .ok settings)
      (valid : settings.validate = .ok ()) : OfProject tree settings

theorem checked_eq_ok_iff (settings checked : Settings) :
    settings.checked = .ok checked ↔ settings.validate = .ok () ∧ settings = checked := by
  unfold Settings.checked
  cases settings.validate <;> simp [Effect.bind_eq_ok_iff, pure, Except.pure]

/-- The settings of a project are what is loaded. -/
theorem load_eq_ok_iff (tree : Tree) (settings : Settings) :
    load tree = .ok settings ↔ OfProject tree settings := by
  unfold load
  cases held : tree.holds configPath with
  | false =>
    constructor
    · intro loaded
      cases loaded
      exact .absent held
    · intro ofProject
      cases ofProject with
      | absent => rfl
      | present present => simp [held] at present
  | true =>
    simp only [if_true, Effect.bind_eq_ok_iff, checked_eq_ok_iff]
    constructor
    · rintro ⟨content, read, parsed, isParsed, valid, rfl⟩
      cases found : tree.read configPath with
      | error fault => simp [found, Except.mapError] at read
      | ok _ =>
        rw [found] at read
        cases read
        exact .present held found isParsed valid
    · intro ofProject
      cases ofProject with
      | absent absent => simp [held] at absent
      | present _ read parsed valid =>
        exact ⟨_, by rw [read]; rfl, _, parsed, valid, rfl⟩

/-- The settings of a project satisfy their constraints. -/
theorem OfProject.isConsistent
    {tree : Tree}
    {settings : Settings}
    (ofProject : OfProject tree settings) :
    settings.IsConsistent := by
  cases ofProject with
  | absent => exact isConsistent_default
  | present _ _ _ valid => exact (validate_eq_ok_iff settings).mp valid

/-- The notice on settings that were replaced by the defaults. -/
def replacedNotice (failure : Failure) : String :=
  "Configuration ignored, using defaults: " ++ failure.message

/-- A run goes on with the settings of the project, or with the defaults and a notice. -/
theorem loadOrDefault_cases (tree : Tree) :
    (∃ settings, OfProject tree settings ∧ loadOrDefault tree = (settings, none)) ∨
      ∃ failure, load tree = .error failure ∧
        loadOrDefault tree = ({}, some (replacedNotice failure)) := by
  unfold loadOrDefault
  cases loaded : load tree with
  | ok settings => exact .inl ⟨settings, (load_eq_ok_iff tree settings).mp loaded, rfl⟩
  | error failure => exact .inr ⟨failure, rfl, rfl⟩

end Settings
end QualityGate
