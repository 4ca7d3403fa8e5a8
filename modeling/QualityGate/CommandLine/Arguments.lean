import QualityGate.CommandLine.Number
import QualityGate.Context

/-!
# Arguments

The arguments of the program.  Some options are known to every command; the options of a run are
also known without any command, because running is the default.  An option is given at most once to
a command.
-/

namespace QualityGate
namespace CommandLine

/-- The options of a run. -/
structure RunArguments where
  context? : Option Context := none
  push : Bool := false
  gates? : Option String := none
  force : Bool := false
  json : Bool := false
  threshold? : Option Float := none
  crisisMode : Bool := false
  timeout? : Option Nat := none
  suggestTemplates : Bool := false
deriving Inhabited

/-- What the program is asked to do. -/
inductive Command where
  | run (arguments : RunArguments)
  | gates
  | baseline
  | lockStatus
  | lockClear
deriving Inhabited

/-- The values of the options, as far as they were read. -/
structure Values where
  project : String := "."
  quiet : Bool := false
  run : RunArguments := {}
deriving Inhabited

/-- What an option does to the values: at once, or with a value. -/
inductive Action where
  | set (change : Values → Values)
  | store (negativeNumbers : Bool) (change : String → Values → Option Values)

/-- An option with its long name and its letter. -/
structure OptionRule where
  name : String
  letter? : Option Char
  action : Action

namespace OptionRule

/-- An option without a value. -/
def flag (name : String) (change : RunArguments → RunArguments) : OptionRule :=
  ⟨name, none, .set fun values => { values with run := change values.run }⟩

/-- An option of a run with a value. -/
def value {α : Type} (name : String) (negativeNumbers : Bool) (read : String → Option α)
    (change : α → RunArguments → RunArguments) : OptionRule :=
  ⟨name, none, .store negativeNumbers fun text values =>
    (read text).map fun value => { values with run := change value values.run }⟩

end OptionRule

/-- The options that every command knows. -/
def globalOptions : List OptionRule :=
  [ ⟨"project-dir", some 'p', .store false fun text values =>
      if text == "" then none else some { values with project := text }⟩,
    ⟨"verbose", some 'v', .set id⟩,
    ⟨"quiet", some 'q', .set fun values => { values with quiet := true }⟩,
    ⟨"log-format", none, .store false fun text values =>
      if ["text", "json"].contains text then some values else none⟩ ]

/-- The options of a run. -/
def runOptions : List OptionRule :=
  [ .value "context" false (fun text => Context.all.find? fun context => context.name == text)
      fun context arguments => { arguments with context? := some context },
    .flag "push" fun arguments => { arguments with push := true },
    .value "gates" false some fun gates arguments => { arguments with gates? := some gates },
    .flag "force" fun arguments => { arguments with force := true },
    .flag "json" fun arguments => { arguments with json := true },
    .value "threshold" true float? fun threshold arguments =>
      { arguments with threshold? := some threshold },
    .flag "crisis-mode" fun arguments => { arguments with crisisMode := true },
    .value "timeout" false natural64? fun timeout arguments =>
      { arguments with timeout? := some timeout },
    .flag "suggest-templates" fun arguments => { arguments with suggestTemplates := true } ]

/-- A place in the tree of commands. -/
inductive Place where
  | top
  | run
  | gates
  | baseline
  | lock
  | lockStatus
  | lockClear
deriving Repr, DecidableEq, Inhabited

namespace Place

/-- The commands below a place. -/
def below : Place → List (String × Place)
  | .top => [("run", .run), ("gates", .gates), ("baseline", .baseline), ("lock", .lock)]
  | .lock => [("status", .lockStatus), ("clear", .lockClear)]
  | _ => []

/-- The options that are known at a place. -/
def options : Place → List OptionRule
  | .top => globalOptions ++ runOptions
  | .run => globalOptions ++ runOptions
  | _ => globalOptions

/-- The name of the program at a place. -/
def title : Place → String
  | .top => "qgate"
  | .run => "qgate-run"
  | .gates => "qgate-gates"
  | .baseline => "qgate-baseline"
  | .lock => "qgate-lock"
  | .lockStatus => "qgate-lock-status"
  | .lockClear => "qgate-lock-clear"

/-- The command at a place; some places need a further word. -/
def command? (place : Place) (values : Values) : Option Command :=
  match place with
  | .top => some (.run values.run)
  | .run => some (.run values.run)
  | .gates => some .gates
  | .baseline => some .baseline
  | .lock => none
  | .lockStatus => some .lockStatus
  | .lockClear => some .lockClear

end Place

/-- Why reading arguments ends before the last one. -/
inductive Stop where
  | usage
  | help
  | version (title : String)
deriving Repr, DecidableEq

/-- The state of reading arguments: the place that was reached, whether it is asked for help on a
command, the options that were given there, an option that waits for its value, whether only further
words may follow, the values, and whether options at an earlier place exclude each other. -/
structure State where
  place : Place := .top
  helping : Bool := false
  given : List String := []
  waiting? : Option OptionRule := none
  onlyWords : Bool := false
  values : Values := {}
  conflict : Bool := false

namespace State

/-- Options at the place exclude each other. -/
def hasConflict (state : State) : Bool :=
  state.conflict || (state.given.contains "verbose" && state.given.contains "quiet")

/-- Note that an option is given, which may happen once at a place. -/
def note (state : State) (rule : OptionRule) : Except Stop State :=
  if state.given.contains rule.name then .error .usage
  else .ok { state with given := rule.name :: state.given }

/-- Give a value to an option. -/
def give (state : State) (rule : OptionRule) (text : String) : Except Stop State := do
  let state ← state.note rule
  match rule.action with
  | .set _ => .error .usage
  | .store _ change =>
    match change text state.values with
    | some values => .ok { state with values := values, waiting? := none }
    | none => .error .usage

/-- Meet an option, with a value joined to it or without one. -/
def meet (state : State) (rule : OptionRule) (joined? : Option String) : Except Stop State :=
  match rule.action, joined? with
  | .set _, some _ => .error .usage
  | .set change, none => do
    let state ← state.note rule
    return { state with values := change state.values }
  | .store _ _, some text => state.give rule text
  | .store _ _, none => .ok { state with waiting? := some rule }

/-- Meet an option by its long name, with which a value may be joined. -/
def meetLong (state : State) (argument : List Char) : Except Stop State :=
  let name := String.ofList (argument.takeWhile (· != '='))
  let joined? := match argument.dropWhile (· != '=') with
    | [] => none
    | _ :: text => some (String.ofList text)
  match state.place.options.find? fun rule => rule.name == name with
  | some rule => state.meet rule joined?
  | none =>
    if joined?.isSome then .error .usage
    else if name == "help" then .error .help
    else if name == "version" then .error (.version state.place.title)
    else .error .usage

/-- Meet options by their letters; what follows the letter of an option with a value is its
value. -/
def meetLetters (state : State) : List Char → Except Stop State
  | [] => .ok state
  | letter :: rest =>
    match state.place.options.find? fun rule => rule.letter? == some letter with
    | some rule =>
      match rule.action with
      | .set _ => do
        let state ← state.meet rule none
        state.meetLetters rest
      | .store _ _ =>
        match rest with
        | [] => state.meet rule none
        | '=' :: text => state.meet rule (some (String.ofList text))
        | text => state.meet rule (some (String.ofList text))
    | none =>
      if letter == 'h' then .error .help
      else if letter == 'V' then .error (.version state.place.title)
      else .error .usage

/-- Go to a command below the place.  The options of a run belong to the command they are given
to. -/
def enter (state : State) (place : Place) : State :=
  { state with
    place := place
    given := []
    values := { state.values with run := {} }
    conflict := state.hasConflict }

/-- The waiting option takes this argument although it looks like options. -/
def takesNegative (rule : OptionRule) (argument : String) : Bool :=
  match rule.action with
  | .store true _ => isNegativeNumber argument
  | _ => false

/-- Read one argument while an option waits for its value. -/
def readValue (state : State) (rule : OptionRule) (argument : String) : Except Stop State :=
  if Text.startsWith argument "-" && argument != "-" && !takesNegative rule argument then
    .error .usage
  else state.give rule argument

/-- Read one argument while no option waits. -/
def readWord (state : State) (argument : String) : Except Stop State :=
  match state.place.below.lookup argument with
  | some place => .ok (state.enter place)
  | none =>
    if argument == "help" && !state.place.below.isEmpty then .ok { state with helping := true }
    else
      match argument.toList with
      | ['-', '-'] => .ok { state with onlyWords := true }
      | '-' :: '-' :: name => state.meetLong name
      | '-' :: letter :: letters => state.meetLetters (letter :: letters)
      | _ => .error .usage

/-- Read the name of a command on which help is wanted. -/
def readTopic (state : State) (argument : String) : Except Stop State :=
  match state.place.below.lookup argument with
  | some place => .ok { state with place := place }
  | none => .error .usage

/-- Read one argument. -/
def read (state : State) (argument : String) : Except Stop State :=
  if state.onlyWords then .error .usage
  else if state.helping then state.readTopic argument
  else
    match state.waiting? with
    | some rule => state.readValue rule argument
    | none => state.readWord argument

end State

/-- A call of the program. -/
structure Call where
  project : String
  quiet : Bool
  command : Command
deriving Inhabited

/-- Read the arguments of a call. -/
def parse (arguments : List String) : Except Stop Call := do
  let state ← arguments.foldlM State.read {}
  if state.helping then .error .help
  else if state.waiting?.isSome || state.hasConflict then .error .usage
  else
    match state.place.command? state.values with
    | some command => return ⟨state.values.project, state.values.quiet, command⟩
    | none => .error .usage

end CommandLine
end QualityGate
