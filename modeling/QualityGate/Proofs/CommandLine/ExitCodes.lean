import QualityGate.CommandLine.Execute
import QualityGate.Proofs.Gate
import QualityGate.Proofs.Run.Notices

/-!
# The exit codes of a run

Arguments that are refused end with exit code 2 before anything happens.  With all other arguments a
run starts with settings that satisfy their constraints, whatever the settings file holds, and its
exit code says how it ended.
-/

namespace QualityGate
namespace CommandLine

/-- The arguments are refused: they name an unknown gate or no gate at all, or their threshold is
not between -1 and 1. -/
inductive RunArguments.IsRefused (arguments : RunArguments) : Prop where
  | unknownGate
      {text name : String}
      (given : arguments.gates? = some text)
      (named : name ∈ Gate.namesIn text)
      (unknown : name ∉ Gate.validNames)
  | noGate
      {text : String}
      (given : arguments.gates? = some text)
      (unnamed : Gate.namesIn text = [])
  | threshold
      {value : Float}
      (given : arguments.threshold? = some value)
      (outside : value.isNaN = true ∨ value < -1.0 ∨ 1.0 < value)

/-- What a run with accepted arguments starts with. -/
structure Prepared.IsSound
    (prepared : Prepared)
    (arguments : RunArguments)
    (tree : Tree) : Prop where
  valid : prepared.plan.settings.validate = .ok ()
  /-- The settings of the project count as far as the arguments do not change them. -/
  kept : ∀ settings, Settings.OfProject tree settings →
    arguments.adjust settings = .ok prepared.plan.settings ∧
      prepared.options.notices = []
  /-- Where the file cannot be used the defaults take its place, and one notice says so. -/
  replaced : (¬∃ settings, Settings.OfProject tree settings) →
    arguments.adjust {} = .ok prepared.plan.settings ∧
      ∃ failure, Settings.load tree = .error failure ∧
        prepared.options.notices = [Settings.replacedNotice failure]

/-- A report has the notices from before its run first, and no further notice that the settings were
replaced. -/
structure IsLedBy (notices : List String) (report : Report) : Prop where
  leading : notices <+: report.notices
  once : report.notices.countP Settings.isReplacedNotice = notices.length

/-- The exit code says how a run ended. -/
structure Tells (result : Except Failure Report) (code : Nat) : Prop where
  passed : code = 0 ↔ ∃ report, result = .ok report ∧ report.violations = []
  violated : code = 1 ↔ ∃ report, result = .ok report ∧ report.violations ≠ []
  failed : code = 2 ↔ ∃ failure, result = .error failure

/-! ## Arguments -/

section Arguments

variable {arguments : RunArguments}

/-- Gates are selected exactly if all names are known and there is one. -/
theorem exists_selectedGates_eq_ok_iff :
    (∃ gates, arguments.selectedGates = .ok gates) ↔
      ∀ text, arguments.gates? = some text →
        Gate.namesIn text ≠ [] ∧ ∀ name ∈ Gate.namesIn text, name ∈ Gate.validNames := by
  unfold RunArguments.selectedGates
  cases arguments.gates? with
  | none => simp
  | some text =>
    simp only [Option.some.injEq, forall_eq', ← Gate.exists_parseList_eq_ok_iff, ne_eq,
      ← Gate.parseList_eq_ok_nil_iff]
    rcases Gate.parseList text with failure | _ | ⟨gate, gates⟩ <;> simp

/-- Settings are adjusted exactly if the threshold is between -1 and 1. -/
theorem exists_adjust_eq_ok_iff (settings : Settings) :
    (∃ adjusted, arguments.adjust settings = .ok adjusted) ↔
      ∀ value, arguments.threshold? = some value →
        ¬(value.isNaN = true ∨ value < -1.0 ∨ 1.0 < value) := by
  simp only [← Settings.within_eq_false_iff (-1.0) 1.0 (by decide) (by decide)]
  unfold RunArguments.adjust
  cases arguments.threshold? with
  | none => simp
  | some value => cases inside : Settings.within (-1.0) 1.0 value <;> simp [inside]

/-- What the arguments change keeps the constraints. -/
theorem isConsistent_of_adjust
    {settings adjusted : Settings}
    (consistent : settings.IsConsistent)
    (succeeds : arguments.adjust settings = .ok adjusted) :
    adjusted.IsConsistent := by
  unfold RunArguments.adjust at succeeds
  extract_lets threshold at succeeds
  have inside (accepted : ¬arguments.threshold?.any
      (fun threshold => !Settings.within (-1.0) 1.0 threshold) = true) :
      Settings.within (-1.0) 1.0 threshold = true := by
    unfold threshold
    cases given : arguments.threshold? with
    | none => exact consistent.threshold
    | some value => simpa [given] using accepted
  split at succeeds
  · cases succeeds
  · rename_i accepted
    cases succeeds
    exact { consistent with threshold := inside accepted }

theorem isRefused_iff :
    arguments.IsRefused ↔
      ¬((∃ gates, arguments.selectedGates = .ok gates) ∧
        ∀ settings, ∃ adjusted, arguments.adjust settings = .ok adjusted) := by
  rw [exists_selectedGates_eq_ok_iff]
  simp only [exists_adjust_eq_ok_iff]
  constructor
  · rintro refused ⟨gates, threshold⟩
    cases refused with
    | unknownGate given named unknown => exact unknown ((gates _ given).2 _ named)
    | noGate given unnamed => exact (gates _ given).1 unnamed
    | threshold given outside => exact threshold default _ given outside
  · intro refused
    by_contra accepted
    refine refused ⟨fun text given => ⟨fun unnamed => accepted (.noGate given unnamed),
      fun name named => ?_⟩, fun _ value given outside => accepted (.threshold given outside)⟩
    by_contra unknown
    exact accepted (.unknownGate given named unknown)

end Arguments

/-! ## Starting a run -/

section Prepare

variable {world : World} {arguments : RunArguments} {quiet : Bool} {tree : Tree}

/-- A run is ready if its gates and its settings are. -/
theorem prepare_eq_ok_iff (prepared : Prepared) :
    prepare world arguments quiet tree = .ok prepared ↔
      ∃ gates, arguments.selectedGates = .ok gates ∧
        ∃ settings, arguments.adjust (Settings.loadOrDefault tree).1 = .ok settings ∧
          { arguments := arguments
            quiet := quiet
            plan := .standard settings world.now
            selection := .ofProject tree settings.scope world.git
            options := ⟨arguments.contextIn world, gates, arguments.force,
              (Settings.loadOrDefault tree).2.toList⟩
            surroundings := world.surroundings } = prepared := by
  simp only [prepare, Effect.bind_eq_ok_iff, pure, Except.pure, Except.ok.injEq]

/-- A run is made ready exactly if its arguments are not refused. -/
theorem exists_prepare_eq_ok_iff :
    (∃ prepared, prepare world arguments quiet tree = .ok prepared) ↔ ¬arguments.IsRefused := by
  simp only [isRefused_iff, not_not, prepare_eq_ok_iff]
  constructor
  · rintro ⟨_, gates, selected, settings, adjusted, -⟩
    have threshold := (exists_adjust_eq_ok_iff _).mp ⟨settings, adjusted⟩
    exact ⟨⟨gates, selected⟩, fun settings => (exists_adjust_eq_ok_iff settings).mpr threshold⟩
  · rintro ⟨⟨gates, selected⟩, adjusts⟩
    obtain ⟨settings, adjusted⟩ := adjusts (Settings.loadOrDefault tree).1
    exact ⟨_, gates, selected, settings, adjusted, rfl⟩

/-- A run that is ready has sound settings. -/
theorem isSound_of_prepare
    {prepared : Prepared}
    (succeeds : prepare world arguments quiet tree = .ok prepared) :
    prepared.IsSound arguments tree := by
  obtain ⟨gates, -, settings, adjusted, rfl⟩ := (prepare_eq_ok_iff prepared).mp succeeds
  rcases Settings.loadOrDefault_cases tree with
    ⟨stored, ofProject, loaded⟩ | ⟨failure, failed, loaded⟩ <;> rw [loaded] at adjusted ⊢
  · refine ⟨?_, ?_, ?_⟩
    · exact (Settings.validate_eq_ok_iff settings).mpr
        (isConsistent_of_adjust ofProject.isConsistent adjusted)
    · intro other ofProject'
      have equal := ((Settings.load_eq_ok_iff tree stored).mpr ofProject).symm.trans
        ((Settings.load_eq_ok_iff tree other).mpr ofProject')
      cases equal
      exact ⟨adjusted, rfl⟩
    · exact fun unusable => absurd ⟨stored, ofProject⟩ unusable
  · refine ⟨?_, ?_, ?_⟩
    · exact (Settings.validate_eq_ok_iff settings).mpr
        (isConsistent_of_adjust Settings.isConsistent_default adjusted)
    · intro other ofProject
      rw [(Settings.load_eq_ok_iff tree other).mpr ofProject] at failed
      cases failed
    · exact fun _ => ⟨adjusted, failure, failed, rfl⟩

end Prepare

/-! ## Ending a run -/

theorem tells_output (prepared : Prepared) (result : Except Failure Report) :
    Tells result (prepared.output result).code := by
  cases result with
  | error failure =>
    constructor <;> simp [Prepared.output, Failure.exitCode, Failure.exitFailed]
  | ok report =>
    have code : (prepared.output (.ok report)).code = if report.violations = [] then 0 else 1 := by
      simp [Prepared.output, Report.exitCode, Failure.exitPassed, Failure.exitViolations]
    rw [code]
    constructor <;> split <;> simp_all

/-- The notices that a run starts with lead its report. -/
theorem isLedBy_of_perform
    {prepared : Prepared}
    {arguments : RunArguments}
    {tree : Tree}
    (sound : prepared.IsSound arguments tree)
    {report : Report}
    (returned : (prepared.perform tree).result = .ok report) :
    IsLedBy prepared.options.notices report := by
  obtain ⟨others, notices_eq, areOther⟩ := Run.exists_notices_of_perform returned
  refine ⟨⟨others, notices_eq.symm⟩, ?_⟩
  have noOther : others.countP Settings.isReplacedNotice = 0 := by
    rw [List.countP_eq_zero]
    simpa [Settings.AreOther] using areOther
  rw [notices_eq, List.countP_append, noOther, Nat.add_zero, List.countP_eq_length]
  intro notice listed
  by_cases usable : ∃ settings, Settings.OfProject tree settings
  · obtain ⟨settings, ofProject⟩ := usable
    rw [(sound.kept settings ofProject).2] at listed
    cases listed
  · obtain ⟨-, failure, -, notices⟩ := sound.replaced usable
    rw [notices, List.mem_singleton] at listed
    rw [listed]
    exact Settings.isReplacedNotice_replacedNotice failure

/-- The command that runs gates refuses some arguments with exit code 2 and without touching
anything.  With all others it starts a run with sound settings, says in the report if they are not
those of the project, and its exit code tells how the run ended. -/
theorem execute_run_exits
    (world : World)
    (arguments : RunArguments)
    (quiet : Bool)
    (tree : Tree) :
    let ended := execute world quiet tree (.run arguments)
    (arguments.IsRefused → ∃ message, prepare world arguments quiet tree = .error message ∧
        ended = (⟨2, [], ["Error: " ++ message]⟩, tree)) ∧
      (¬arguments.IsRefused → ∃ prepared, prepare world arguments quiet tree = .ok prepared ∧
        prepared.IsSound arguments tree ∧
        (∀ report, (prepared.perform tree).result = .ok report →
          IsLedBy prepared.options.notices report) ∧
        Tells (prepared.perform tree).result ended.1.code ∧
        ended.2 = (prepared.perform tree).tree) := by
  intro ended
  constructor
  · intro refused
    cases readied : prepare world arguments quiet tree with
    | ok prepared => exact absurd refused (exists_prepare_eq_ok_iff.mp ⟨prepared, readied⟩)
    | error message =>
      refine ⟨message, rfl, ?_⟩
      simp only [ended, execute, runCommand, readied]
      rfl
  · intro accepted
    obtain ⟨prepared, readied⟩ : ∃ prepared, prepare world arguments quiet tree = .ok prepared :=
      exists_prepare_eq_ok_iff.mpr accepted
    have sound := isSound_of_prepare readied
    have ended_eq : ended =
        (prepared.output (prepared.perform tree).result, (prepared.perform tree).tree) := by
      simp only [ended, execute, runCommand, readied]
    refine ⟨prepared, readied, sound, fun report => isLedBy_of_perform sound, ?_, ?_⟩
    · rw [ended_eq]
      exact tells_output prepared _
    · rw [ended_eq]

/-- A threshold that is NaN is refused.  Sizes in the wrong order are replaced by the defaults, and
a run starts. -/
theorem execute_run_exits_of_disordered_sizes :
    let world : World := ⟨7, ⟨⟨2026, 5, 4⟩, 43200, 0⟩, "run", [], .missing⟩
    let tree : Tree := ⟨"/project", [([".qgate"], .folder), ([".qgate", "config.toml"],
      .file (.text "[god_object]\nwarning_lines = 9\ncritical_lines = 5\n"))]⟩
    let refused : RunArguments := { threshold? := some (0.0 / 0.0) }
    let accepted : RunArguments := { gates? := some " naming ,", threshold? := some (-1.0) }
    (∃ message, execute world false tree (.run refused) =
        (⟨2, [], ["Error: " ++ message]⟩, tree)) ∧
      ∃ prepared failure, prepare world accepted false tree = .ok prepared ∧
        prepared.plan.settings.validate = .ok () ∧
        prepared.options.notices = [Settings.replacedNotice failure] ∧
        Tells (prepared.perform tree).result (execute world false tree (.run accepted)).1.code := by
  intro world tree refused accepted
  constructor
  · obtain ⟨message, -, ended⟩ := (execute_run_exits world refused false tree).1
      (.threshold rfl (by decide))
    exact ⟨message, ended⟩
  · have names : Gate.namesIn " naming ," = ["naming"] := by decide +kernel
    have isAccepted : ¬accepted.IsRefused := by
      rintro (⟨⟨rfl⟩, named, unknown⟩ | ⟨⟨rfl⟩, unnamed⟩ | ⟨⟨rfl⟩, outside⟩)
      · rw [names, List.mem_singleton] at named
        rw [named] at unknown
        exact unknown (by decide)
      · rw [names] at unnamed
        cases unnamed
      · exact absurd outside (by decide)
    have unusable : ¬∃ settings, Settings.OfProject tree settings := by
      rintro ⟨settings, ofProject⟩
      have loaded := (Settings.load_eq_ok_iff tree settings).mpr ofProject
      have failed : (Settings.load tree).toOption.isNone = true := by decide +kernel
      rw [loaded] at failed
      cases failed
    obtain ⟨prepared, readied, sound, -, tells, -⟩ :=
      (execute_run_exits world accepted false tree).2 isAccepted
    obtain ⟨-, failure, -, notices⟩ := sound.replaced unusable
    exact ⟨prepared, failure, readied, sound.valid, notices, tells⟩

end CommandLine
end QualityGate
