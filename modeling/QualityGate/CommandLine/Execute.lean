import QualityGate.CommandLine.Arguments
import QualityGate.CommandLine.Display
import QualityGate.Run.Perform
import QualityGate.Settings.Load

/-!
# Executing commands

A command prints lines, changes the files of a project and ends with an exit code: 0 without
violations, 1 with violations, 2 if it could not be done.
-/

namespace QualityGate
namespace CommandLine

/-- The version of the program. -/
def version : String := "0.1.0"

/-- What a command prints, and its exit code. -/
structure Output where
  code : Nat
  printed : List String
  errors : List String
deriving Repr, DecidableEq, Inhabited

namespace Output

/-- Lines and success. -/
def success (lines : List String) : Output :=
  ⟨Failure.exitPassed, lines, []⟩

/-- A failure with a message. -/
def failure (message : String) : Output :=
  ⟨Failure.exitFailed, [], ["Error: " ++ message]⟩

end Output

/-- What surrounds the program: its process, the clock, a fresh name for a run, its environment, and
git. -/
structure World where
  process : Nat
  now : Instant
  runId : String
  environment : List (String × String)
  git : Git

namespace World

/-- The file to which summaries are appended: the first variable that is not empty. -/
def summaryTarget? (world : World) : Option String :=
  let targets := ["QGATE_SUMMARY_FILE", "GITHUB_STEP_SUMMARY"].filterMap fun name =>
    world.environment.lookup name
  targets.find? fun target => target != ""

/-- What surrounds a run. -/
def surroundings (world : World) : Run.Surroundings :=
  ⟨world.process, world.now, world.runId, world.summaryTarget?⟩

end World

namespace RunArguments

/-- The gates to run; a list without gates is refused. -/
def selectedGates (arguments : RunArguments) : Except String (List Gate) :=
  match arguments.gates? with
  | none => .ok Gate.all
  | some text =>
    match Gate.parseList text with
    | .error failure => .error failure.message
    | .ok [] => .error "--gates named no gates"
    | .ok gates => .ok gates

/-- The settings with what the arguments change. -/
def adjust (arguments : RunArguments) (settings : Settings) : Except String Settings :=
  let threshold := arguments.threshold?.getD settings.hiddenTodo.confidenceThreshold
  if arguments.threshold?.any fun threshold => !Settings.within (-1.0) 1.0 threshold then
    .error "--threshold must be within [-1, 1]"
  else .ok
    { settings with
      hiddenTodo := { settings.hiddenTodo with
        confidenceThreshold := threshold
        suggestTemplates := arguments.suggestTemplates || settings.hiddenTodo.suggestTemplates }
      size := { settings.size with
        crisisMode := arguments.crisisMode || settings.size.crisisMode }
      timeouts := match arguments.timeout? with
        | some seconds => ⟨seconds, []⟩
        | none => settings.timeouts }

/-- The context of the run. -/
def contextIn (arguments : RunArguments) (world : World) : Context :=
  arguments.context?.getD (Context.infer (world.environment.lookup "CI") arguments.push)

/-- What is printed on a report. -/
def linesOn (arguments : RunArguments) (quiet : Bool) (report : Report) : List String :=
  if arguments.json then [report.render] else if quiet then [] else reportLines report

end RunArguments

/-- A run that is ready to start. -/
structure Prepared where
  arguments : RunArguments
  quiet : Bool
  plan : Run.Plan
  selection : Run.Selection
  options : Run.Options
  surroundings : Run.Surroundings

namespace Prepared

/-- The output of a run with a result. -/
def output (prepared : Prepared) : Except Failure Report → Output
  | .error failure => ⟨failure.exitCode, [], ["Error: " ++ failure.message]⟩
  | .ok report => ⟨report.exitCode, prepared.arguments.linesOn prepared.quiet report, []⟩

/-- Run the gates. -/
def perform (prepared : Prepared) (tree : Tree) : Run.Trace :=
  Run.perform prepared.plan prepared.selection prepared.options prepared.surroundings tree

end Prepared

/-- Make a run ready, or say what is wrong with its arguments.  Gates are checked before anything
else. -/
def prepare (world : World) (arguments : RunArguments) (quiet : Bool) (tree : Tree) :
    Except String Prepared := do
  let gates ← arguments.selectedGates
  let (settings, notice?) := Settings.loadOrDefault tree
  let settings ← arguments.adjust settings
  return {
    arguments := arguments
    quiet := quiet
    plan := .standard settings world.now
    selection := .ofProject tree settings.scope world.git
    options := ⟨arguments.contextIn world, gates, arguments.force, notice?.toList⟩
    surroundings := world.surroundings }

/-- The command that runs gates. -/
def runCommand (world : World) (arguments : RunArguments) (quiet : Bool) (tree : Tree) :
    Output × Tree :=
  match prepare world arguments quiet tree with
  | .error message => (.failure message, tree)
  | .ok prepared =>
    let trace := prepared.perform tree
    (prepared.output trace.result, trace.tree)

/-- The command that records sizes. -/
def baselineCommand (world : World) (tree : Tree) : Output × Tree :=
  let settings := (Settings.loadOrDefault tree).1
  let scope := Scope.resolve tree (.ofProject tree settings.scope) world.git none .ci
  let baseline := Size.Baseline.capture tree scope.files world.now
  let path := Location.join tree.root Settings.baselinePath
  match baseline.save tree with
  | .error failure =>
    (.failure ("Failed to write baseline to " ++ path ++ ": " ++ failure.message), tree)
  | .ok tree =>
    (.success ["OK Recorded " ++ Text.decimal baseline.files.length ++ " files in " ++ path], tree)

/-- The output of work on the lock. -/
def lockOutput {α : Type} (line : α → String) : Except Failure α → Output
  | .ok value => .success [line value]
  | .error failure => .failure failure.message

/-- Execute a command in a project. -/
def execute (world : World) (quiet : Bool) (tree : Tree) : Command → Output × Tree
  | .run arguments => runCommand world arguments quiet tree
  | .gates => (.success (gateTable (Settings.loadOrDefault tree).1.enforcement), tree)
  | .baseline => baselineCommand world tree
  | .lockStatus =>
    (lockOutput statusLine (Lock.status tree world.now Lock.standardWindow), tree)
  | .lockClear =>
    let (result, tree) := Effect.runOn Lock.clear tree
    (lockOutput clearedLine result, tree)

/-- The output of a call for a project that does not exist. -/
def missingProject (path : String) : Output :=
  .failure ("Project directory does not exist: " ++ path)

/-- Execute a call in the directory of a tree; its project may be a folder in there. -/
def executeIn (world : World) (call : Call) (tree : Tree) : Output × Tree :=
  match tree.resolve call.project, tree.find call.project with
  | .ok names, .ok .folder =>
    let (output, project) := execute world call.quiet (tree.below names) call.command
    (output, tree.graft names project)
  | .ok names, .ok (.file _) => (missingProject (Location.joinNames tree.root names), tree)
  | _, _ => (missingProject call.project, tree)

/-- The output if no command is executed. -/
def stopOutput : Stop → Output
  | .help => .success usageLines
  | .version title => .success [title ++ " " ++ version]
  | .usage => ⟨Failure.exitFailed, [], "error: invalid arguments" :: "" :: usageLines⟩

/-- Execute the program with its arguments. -/
def executeArguments (world : World) (arguments : List String) (tree : Tree) : Output × Tree :=
  match parse arguments with
  | .ok call => executeIn world call tree
  | .error stop => (stopOutput stop, tree)

end CommandLine
end QualityGate
