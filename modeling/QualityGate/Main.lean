import QualityGate.CommandLine.Execute
import Std.Time.DateTime.Timestamp

/-!
# The program

The outer layer: it reads a project into memory, lets the library decide what happens, and writes
back what changed.  A run holds its lock on the disk while its gates are at work.
-/

namespace QualityGate
namespace Program

/-! ## Reading a project -/

/-- Folders whose files are never looked at are not read. -/
def isSkipped (name : String) : Bool :=
  Scope.defaultFolders.contains name && name != ".git" && name != Settings.stateDir

/-- Everything below a folder; links are not followed, and of git only what it ignores is read. -/
partial def entriesBelow (folder : String) (names : List String) :
    IO (List (List String × Node)) := do
  let entries ← (← IO.FS.realPath folder).readDir
  let found ← entries.toList.mapM fun entry => do
    let path := names ++ [entry.fileName]
    match (← entry.path.symlinkMetadata).type with
    | .dir =>
      if isSkipped entry.fileName || (names == [".git"] && entry.fileName != "info") then
        pure [(path, Node.folder)]
      else
        pure ((path, Node.folder) :: (← entriesBelow entry.path.toString path))
    | .file =>
      try
        pure [(path, Node.file (.ofBytes (← IO.FS.readBinFile entry.path).toList))]
      catch _ => pure []
    | _ => pure []
  return found.flatten

/-- The project in a directory. -/
def load (root : String) : IO Tree := do
  return ⟨root, ← entriesBelow root []⟩

/-- Read the state of a project again. -/
def refresh (tree : Tree) : IO Tree := do
  let folder := Location.join tree.root Settings.stateDir
  let state ← try entriesBelow folder [] catch _ => pure []
  return tree.graft [Settings.stateDir] ⟨folder, state⟩

/-! ## Writing a project -/

/-- Write what is new or different, and remove what is gone. -/
def save (before after : Tree) : IO Unit := do
  for (names, node) in after.entries do
    let path := Location.joinNames after.root names
    match node with
    | .folder => IO.FS.createDirAll path
    | .file (.text text) =>
      if before.node? names != some node then IO.FS.writeFile path text
    | .file (.binary bytes) =>
      if before.node? names != some node then IO.FS.writeBinFile path ⟨bytes.toArray⟩
  for (names, node) in before.entries do
    match node, after.node? names with
    | .file _, none => IO.FS.removeFile (Location.joinNames before.root names)
    | _, _ => pure ()

/-- Change the state of a project while no other run changes it. -/
def exclusively {α : Type} (tree : Tree) (change : Tree → α × Tree) : IO (α × Tree) := do
  let folder := Location.join tree.root Settings.stateDir
  let handle? ← try
      IO.FS.createDirAll folder
      let handle ← IO.FS.Handle.mk (Location.join tree.root Lock.guardPath) .append
      handle.lock
      pure (some handle)
    catch _ => pure none
  let current ← refresh tree
  let (value, changed) := change current
  save current changed
  match handle? with
  | some handle => handle.unlock
  | none => pure ()
  return (value, changed)

/-! ## Commands -/

/-- Append a summary to a file outside of the project; a failure does not matter. -/
def appendOutside (target? : Option String) (tree : Tree) (report : Report) : IO Unit := do
  match target? with
  | none => pure ()
  | some target =>
    if (tree.route? target).isNone then
      try
        let handle ← IO.FS.Handle.mk target .append
        handle.putStr report.summary
      catch _ => pure ()

/-- Run gates: take the lock, examine, write the report and release the lock. -/
def run (prepared : CommandLine.Prepared) (tree : Tree) : IO CommandLine.Output := do
  let target? := prepared.surroundings.summaryTarget?
  let (started, held) ← exclusively tree (Run.start prepared.options prepared.surroundings)
  match started with
  | .error failure => return prepared.output (.error failure)
  | .ok guard =>
    let report := Run.examine prepared.plan prepared.selection prepared.options
      prepared.surroundings guard held
    let (result, _) ← exclusively held (Run.deliver target? guard report)
    match result with
    | .ok report => appendOutside target? tree report
    | .error _ => pure ()
    return prepared.output result

/-- Execute a command in a directory. -/
def execute (world : CommandLine.World) (call : CommandLine.Call) (root : String) :
    IO CommandLine.Output := do
  let tree ← load root
  match call.command with
  | .run arguments =>
    match CommandLine.prepare world arguments call.quiet tree with
    | .error message => return .failure message
    | .ok prepared => run prepared tree
  | command =>
    let (output, changed) := CommandLine.execute world call.quiet tree command
    save tree changed
    return output

/-! ## The world -/

/-- The number of this process. -/
def processId : IO Nat := do
  try
    let status ← IO.FS.readFile "/proc/self/stat"
    return Text.decimalValue (status.toList.takeWhile Char.isDigit)
  catch _ => return 0

/-- A random name for a run. -/
def freshRunId : IO String := do
  let bytes := (← IO.getRandomBytes 16).toList.map UInt8.toNat
  let digits := bytes.map (Text.hex 2)
  let part (start count : Nat) : String := String.join ((digits.drop start).take count)
  let variant := Text.hex 2 (128 + (bytes.getD 8 0) % 64)
  let versioned := Text.hex 2 (64 + (bytes.getD 6 0) % 16)
  return String.intercalate "-"
    [part 0 4, part 4 2, versioned ++ part 7 1, variant ++ part 9 1, part 10 6]

/-- The instant now. -/
def instantNow : IO Instant := do
  let elapsed := (← Std.Time.Timestamp.now).toMillisecondsSinceUnixEpoch
  return .ofMilliseconds elapsed.val.toNat

/-- What surrounds this process. -/
def world : IO CommandLine.World := do
  let names := ["CI", "QGATE_SUMMARY_FILE", "GITHUB_STEP_SUMMARY"]
  let environment ← names.filterMapM fun name => do
    return (← IO.getEnv name).map fun value => (name, value)
  return ⟨← processId, ← instantNow, ← freshRunId, environment, .missing⟩

/-- Print an output and give its exit code. -/
def emit (output : CommandLine.Output) : IO UInt32 := do
  for line in output.printed do
    IO.println line
  for line in output.errors do
    IO.eprintln line
  return output.code.toUInt32

/-- Find the project of a call and execute it there. -/
def executeCall (call : CommandLine.Call) : IO CommandLine.Output := do
  let root ← try pure (← IO.FS.realPath call.project).toString catch _ => pure call.project
  let isFolder ← try pure ((← (← IO.FS.realPath root).metadata).type == .dir) catch _ => pure false
  if isFolder then execute (← world) call root
  else return CommandLine.missingProject root

end Program
end QualityGate

/-- The program. -/
def main (arguments : List String) : IO UInt32 := do
  match QualityGate.CommandLine.parse arguments with
  | .ok call => QualityGate.Program.emit (← QualityGate.Program.executeCall call)
  | .error stop => QualityGate.Program.emit (QualityGate.CommandLine.stopOutput stop)
