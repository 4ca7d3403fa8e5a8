import QualityGate.Context
import QualityGate.Decoder

/-!
# Settings

The settings of a project, section by section.  Every setting has a default, and a document may
leave out whatever it does not change.
-/

namespace QualityGate

/-- Which files are looked at.  `pushBase?` names the branch that a push is compared with; without
it, git's own choice holds. -/
structure ScopeSettings where
  excludeDirs : List String := []
  excludeFiles : List String := []
  pushBase? : Option String := none
deriving Inhabited

/-- How long gates may take. -/
structure TimeoutSettings where
  defaultSeconds : Nat := 30
  perGate : Dictionary Nat := []
deriving Inhabited

/-- When hidden work is reported. -/
structure HiddenTodoSettings where
  confidenceThreshold : Float := 0.3
  broadKeywordBypass : Bool := true
  suggestTemplates : Bool := false
deriving Inhabited

/-- When a file is too large. -/
structure SizeSettings where
  warningLines : Nat := 1500
  criticalLines : Nat := 2000
  crisisLines : Nat := 3000
  crisisMode : Bool := false
deriving Inhabited

/-- When code counts as duplicated. -/
structure DuplicationSettings where
  windowLines : Nat := 6
  fileSimilarity : Float := 0.8
  minFileLines : Nat := 20
deriving Inhabited

/-- Which names are banned. -/
structure NamingSettings where
  bannedModifiers : List String :=
    ["enhanced", "improved", "new", "final", "copy", "unified", "better", "updated", "fixed",
      "refactored", "simplified", "v2", "old", "temp"]
  checkSymbols : Bool := true
deriving Inhabited

/-- Which files are documents, and where dated ones belong. -/
structure DocumentationSettings where
  archiveDir : String := "docs/archive"
  extensions : List String := ["md", "mdx", "rst", "txt"]
deriving Inhabited

/-- How much declared debt is allowed. -/
structure PlaceholderSettings where
  maxPlaceholders : Nat := 5
  maxDebtScore : Nat := 10
  weightNonBlocking : Nat := 1
  weightPartial : Nat := 3
  weightBlocksAcceptance : Nat := 5
  nonDegradableScopes : List String := ["security", "compliance"]
  coverageWindow : Nat := 10
deriving Inhabited

/-- All settings of a project. -/
structure Settings where
  scope : ScopeSettings := {}
  timeouts : TimeoutSettings := {}
  enforcement : Dictionary ContextLevels := []
  hiddenTodo : HiddenTodoSettings := {}
  size : SizeSettings := {}
  duplication : DuplicationSettings := {}
  naming : NamingSettings := {}
  documentation : DocumentationSettings := {}
  placeholder : PlaceholderSettings := {}
deriving Inhabited

namespace TimeoutSettings

/-- The seconds a gate may take: at least 5 and at most 60. -/
def secondsFor (settings : TimeoutSettings) (gate : String) : Nat :=
  min 60 (max 5 ((Dictionary.find? gate settings.perGate).getD settings.defaultSeconds))

end TimeoutSettings

namespace Settings

/-! ## Decoding -/

open Decoder

/-- How the section on scope is found. -/
def scopeDecoder : Decoder ScopeSettings :=
  record "ScopeConfig" {}
    [ .defaulted "exclude_dirs" (.sequence .text) fun value held =>
        { held with excludeDirs := value },
      .defaulted "exclude_files" (.sequence .text) fun value held =>
        { held with excludeFiles := value },
      .defaulted "upstream" (.optional .text) fun value held =>
        { held with pushBase? := value } ]

/-- How the section on timeouts is found. -/
def timeoutDecoder : Decoder TimeoutSettings :=
  record "TimeoutConfig" {}
    [ .defaulted "default_secs" .natural64 fun value held =>
        { held with defaultSeconds := value },
      .defaulted "per_gate" (.dictionary .natural64) fun value held =>
        { held with perGate := value } ]

/-- How the levels of a gate are found. -/
def levelsDecoder : Decoder ContextLevels :=
  record "ContextLevels" default
    [ .defaulted "commit" (.optional (.choice Level.byName)) fun value levels =>
        { levels with commit? := value },
      .defaulted "push" (.optional (.choice Level.byName)) fun value levels =>
        { levels with push? := value },
      .defaulted "ci" (.optional (.choice Level.byName)) fun value levels =>
        { levels with ci? := value } ]

/-- How the section on hidden work is found. -/
def hiddenTodoDecoder : Decoder HiddenTodoSettings :=
  record "HiddenTodoConfig" {}
    [ .defaulted "confidence_threshold" .float fun value held =>
        { held with confidenceThreshold := value },
      .defaulted "broad_keyword_bypass" .flag fun value held =>
        { held with broadKeywordBypass := value },
      .defaulted "suggest_templates" .flag fun value held =>
        { held with suggestTemplates := value } ]

/-- How the section on sizes is found. -/
def sizeDecoder : Decoder SizeSettings :=
  record "GodObjectConfig" {}
    [ .defaulted "warning_lines" .size fun value held =>
        { held with warningLines := value },
      .defaulted "critical_lines" .size fun value held =>
        { held with criticalLines := value },
      .defaulted "crisis_lines" .size fun value held =>
        { held with crisisLines := value },
      .defaulted "crisis_mode" .flag fun value held =>
        { held with crisisMode := value } ]

/-- How the section on duplication is found. -/
def duplicationDecoder : Decoder DuplicationSettings :=
  record "DuplicationConfig" {}
    [ .defaulted "window_lines" .size fun value held =>
        { held with windowLines := value },
      .defaulted "file_similarity" .float fun value held =>
        { held with fileSimilarity := value },
      .defaulted "min_file_lines" .size fun value held =>
        { held with minFileLines := value } ]

/-- How the section on names is found. -/
def namingDecoder : Decoder NamingSettings :=
  record "NamingConfig" {}
    [ .defaulted "banned_modifiers" (.sequence .text) fun value held =>
        { held with bannedModifiers := value },
      .defaulted "check_symbols" .flag fun value held =>
        { held with checkSymbols := value } ]

/-- How the section on documents is found. -/
def documentationDecoder : Decoder DocumentationSettings :=
  record "DocumentationConfig" {}
    [ .defaulted "archive_dir" .text fun value held =>
        { held with archiveDir := value },
      .defaulted "extensions" (.sequence .text) fun value held =>
        { held with extensions := value } ]

/-- How the section on placeholders is found. -/
def placeholderDecoder : Decoder PlaceholderSettings :=
  record "PlaceholderConfig" {}
    [ .defaulted "max_placeholders" .size fun value held =>
        { held with maxPlaceholders := value },
      .defaulted "max_debt_score" .natural32 fun value held =>
        { held with maxDebtScore := value },
      .defaulted "weight_non_blocking" .natural32 fun value held =>
        { held with weightNonBlocking := value },
      .defaulted "weight_partial" .natural32 fun value held =>
        { held with weightPartial := value },
      .defaulted "weight_blocks_acceptance" .natural32 fun value held =>
        { held with weightBlocksAcceptance := value },
      .defaulted "non_degradable_scopes" (.sequence .text) fun value held =>
        { held with nonDegradableScopes := value },
      .defaulted "coverage_window" .size fun value held =>
        { held with coverageWindow := value } ]

/-- How the settings are found in a document. -/
def decoder : Decoder Settings :=
  record "QgateConfig" {}
    [ .defaulted "scope" scopeDecoder fun value settings => { settings with scope := value },
      .defaulted "timeouts" timeoutDecoder fun value settings =>
        { settings with timeouts := value },
      .defaulted "enforcement" (.dictionary levelsDecoder) fun value settings =>
        { settings with enforcement := value },
      .defaulted "hidden_todo" hiddenTodoDecoder fun value settings =>
        { settings with hiddenTodo := value },
      .defaulted "god_object" sizeDecoder fun value settings => { settings with size := value },
      .defaulted "duplication" duplicationDecoder fun value settings =>
        { settings with duplication := value },
      .defaulted "naming" namingDecoder fun value settings => { settings with naming := value },
      .defaulted "documentation" documentationDecoder fun value settings =>
        { settings with documentation := value },
      .defaulted "placeholder" placeholderDecoder fun value settings =>
        { settings with placeholder := value } ]

/-! ## Encoding -/

/-- The levels of a gate as a document. -/
def levelsJson (levels : ContextLevels) : Json :=
  let level : Option Level → Json := .ofOption fun level => .text (Level.name level)
  .object [("commit", level levels.commit?), ("push", level levels.push?), ("ci", level levels.ci?)]

/-- The settings as a document. -/
def toJson (settings : Settings) : Json :=
  .object
    [ ("scope", .object
        [ ("exclude_dirs", .texts settings.scope.excludeDirs),
          ("exclude_files", .texts settings.scope.excludeFiles),
          ("upstream", .ofOption .text settings.scope.pushBase?) ]),
      ("timeouts", .object
        [ ("default_secs", .natural settings.timeouts.defaultSeconds),
          ("per_gate", .object (settings.timeouts.perGate.map fun (gate, seconds) =>
            (gate, .natural seconds))) ]),
      ("enforcement", .object (settings.enforcement.map fun (gate, levels) =>
        (gate, levelsJson levels))),
      ("hidden_todo", .object
        [ ("confidence_threshold", .float settings.hiddenTodo.confidenceThreshold),
          ("broad_keyword_bypass", .boolean settings.hiddenTodo.broadKeywordBypass),
          ("suggest_templates", .boolean settings.hiddenTodo.suggestTemplates) ]),
      ("god_object", .object
        [ ("warning_lines", .natural settings.size.warningLines),
          ("critical_lines", .natural settings.size.criticalLines),
          ("crisis_lines", .natural settings.size.crisisLines),
          ("crisis_mode", .boolean settings.size.crisisMode) ]),
      ("duplication", .object
        [ ("window_lines", .natural settings.duplication.windowLines),
          ("file_similarity", .float settings.duplication.fileSimilarity),
          ("min_file_lines", .natural settings.duplication.minFileLines) ]),
      ("naming", .object
        [ ("banned_modifiers", .texts settings.naming.bannedModifiers),
          ("check_symbols", .boolean settings.naming.checkSymbols) ]),
      ("documentation", .object
        [ ("archive_dir", .text settings.documentation.archiveDir),
          ("extensions", .texts settings.documentation.extensions) ]),
      ("placeholder", .object
        [ ("max_placeholders", .natural settings.placeholder.maxPlaceholders),
          ("max_debt_score", .natural settings.placeholder.maxDebtScore),
          ("weight_non_blocking", .natural settings.placeholder.weightNonBlocking),
          ("weight_partial", .natural settings.placeholder.weightPartial),
          ("weight_blocks_acceptance", .natural settings.placeholder.weightBlocksAcceptance),
          ("non_degradable_scopes", .texts settings.placeholder.nonDegradableScopes),
          ("coverage_window", .natural settings.placeholder.coverageWindow) ]) ]

/-! ## Constraints -/

/-- The value lies between two bounds, which belong to it. -/
def within (low high value : Float) : Bool :=
  low ≤ value && value ≤ high

/-- Check the constraints between settings; the first one that fails is reported. -/
def validate (settings : Settings) : Except Failure Unit :=
  let sizes := settings.size
  if !(sizes.warningLines < sizes.criticalLines && sizes.criticalLines < sizes.crisisLines) then
    .error (.invalidConfig "god_object" "tiers must satisfy warning < critical < crisis")
  else if !within (-1.0) 1.0 settings.hiddenTodo.confidenceThreshold then
    .error (.invalidConfig "hidden_todo.confidence_threshold" "must be within [-1, 1]")
  else if !within 0.0 1.0 settings.duplication.fileSimilarity then
    .error (.invalidConfig "duplication.file_similarity" "must be within [0, 1]")
  else if settings.duplication.windowLines == 0 then
    .error (.invalidConfig "duplication.window_lines" "must be at least 1")
  else .ok ()

/-! ## Files of a project -/

/-- The folder that holds the settings and the state of runs. -/
def stateDir : String := ".qgate"

/-- The file of the settings. -/
def configPath : String := ".qgate/config.toml"

/-- The file of the exceptions. -/
def exceptionsPath : String := ".qgate/exceptions.json"

/-- The marker of the run lock. -/
def lockPath : String := ".qgate/run.lock"

/-- The file of the report. -/
def reportPath : String := ".qgate/report.json"

/-- The file of the recorded sizes. -/
def baselinePath : String := ".qgate/god-object-baseline.json"

end Settings
end QualityGate
