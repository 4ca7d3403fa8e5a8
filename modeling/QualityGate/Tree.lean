import QualityGate.Failure
import QualityGate.Location
import QualityGate.Text.Bytes

/-!
# Trees of files

The files of a project, kept in memory.  A path is followed component by component, as a file system
does: a missing component, a file in the middle of a path and a folder in place of a file are told
apart.  There are no links: under every list of names is a file or a folder of its own.
-/

namespace QualityGate

/-- The content of a file. -/
inductive Content where
  | text (value : String)
  /-- Bytes that are no text. -/
  | binary (bytes : List UInt8)
deriving Repr, DecidableEq, Inhabited

namespace Content

/-- Bytes as the content of a file. -/
def ofBytes (bytes : List UInt8) : Content :=
  match Text.decode? bytes with
  | some value => .text value
  | none => .binary bytes

/-- A content with a text behind it. -/
def append : Content → String → Content
  | .text before, added => .text (before ++ added)
  | .binary before, added => ofBytes (before ++ added.toUTF8.toList)

/-- The lines of a content up to the first one that is no text. -/
def leadingText : Content → String
  | .text value => value
  | .binary bytes => Text.leadingLines bytes

end Content

/-- What is found under a path. -/
inductive Node where
  | folder
  | file (content : Content)
deriving Repr, DecidableEq, Inhabited

/-- A project directory: its own path, and what is in it under lists of names. -/
structure Tree where
  root : String
  entries : List (List String × Node)
deriving Repr, Inhabited

namespace Tree

/-- A directory with nothing in it. -/
def empty (root : String) : Tree :=
  ⟨root, []⟩

/-- What is found under a list of names; the directory itself is a folder. -/
def node? (tree : Tree) (names : List String) : Option Node :=
  if names.isEmpty then some .folder else tree.entries.lookup names

/-- The steps from the directory to a path, which is relative or lies below the directory. -/
def route? (tree : Tree) (path : String) : Option (List Component) :=
  let steps := Location.components path
  if Text.startsWith path "/" then
    (Location.components tree.root).isPrefixOf? steps
  else some (steps.filter (· != .current))

/-- A path that can only denote a folder. -/
def asksFolder (path : String) : Bool :=
  Text.endsWith path "/" || Text.endsWith path "/."

/-- Follow steps from a list of names that was reached. -/
def follow (tree : Tree) : List Component → List String → Except FileFault (List String)
  | [], reached => .ok reached
  | step :: rest, reached =>
    match tree.node? reached with
    | none => .error .missing
    | some (.file _) => .error .notFolder
    | some .folder =>
      match step with
      | .name name => follow tree rest (reached ++ [name])
      | .parent => if reached.isEmpty then .error .missing else follow tree rest reached.dropLast
      | _ => follow tree rest reached

/-- The list of names a path denotes; only the last one may be missing. -/
def resolve (tree : Tree) (path : String) : Except FileFault (List String) :=
  match tree.route? path with
  | none => .error .missing
  | some steps => tree.follow steps []

/-- What a path denotes. -/
def find (tree : Tree) (path : String) : Except FileFault Node := do
  let names ← tree.resolve path
  match tree.node? names with
  | none => .error .missing
  | some (.file content) => if asksFolder path then .error .notFolder else .ok (.file content)
  | some .folder => .ok .folder

/-- Something is found under the path. -/
def holds (tree : Tree) (path : String) : Bool :=
  match tree.find path with
  | .ok _ => true
  | .error _ => false

/-- A file is found under the path. -/
def isFile (tree : Tree) (path : String) : Bool :=
  match tree.find path with
  | .ok (.file _) => true
  | _ => false

/-- The text of a file. -/
def read (tree : Tree) (path : String) : Except FileFault String := do
  match ← tree.find path with
  | .folder => .error .isFolder
  | .file (.binary _) => .error .notText
  | .file (.text value) => .ok value

/-- The lines of a file up to the first one that is no text. -/
def readLeading (tree : Tree) (path : String) : Except FileFault String := do
  match ← tree.find path with
  | .folder => .error .isFolder
  | .file content => .ok content.leadingText

/-- Put a node under a list of names. -/
def put (tree : Tree) (names : List String) (node : Node) : Tree :=
  { tree with entries := tree.entries.filter (fun entry => entry.1 != names) ++ [(names, node)] }

/-- A node is found where it was put. -/
theorem node?_put_self (tree : Tree) {names : List String} (node : Node) (inside : names ≠ []) :
    (tree.put names node).node? names = some node := by
  have gone : (tree.entries.filter fun entry => entry.1 != names).lookup names = none := by
    simp only [List.lookup_eq_none_iff, List.mem_filter]
    grind
  simp [node?, put, inside, List.lookup_append, gone]

/-- Everything else stays where it is. -/
theorem node?_put_of_ne (tree : Tree) {names others : List String} (node : Node)
    (differs : others ≠ names) : (tree.put names node).node? others = tree.node? others := by
  have kept : ∀ entries : List (List String × Node),
      (entries.filter fun entry => entry.1 != names).lookup others = entries.lookup others := by
    intro entries
    induction entries with
    | nil => rfl
    | cons entry rest ih =>
      obtain ⟨place, held⟩ := entry
      by_cases here : place = names <;> grind
  have absent : [(names, node)].lookup others = none := by
    simp [List.lookup_eq_none_iff, differs]
  simp [node?, put, List.lookup_append, kept, absent]

/-- Write a file whose folder exists. -/
def write (tree : Tree) (path : String) (content : Content) : Except FileFault Tree := do
  let names ← tree.resolve path
  if asksFolder path then .error .isFolder
  else
    match tree.node? names.dropLast with
    | none => .error .missing
    | some (.file _) => .error .notFolder
    | some .folder =>
      match tree.node? names with
      | some .folder => .error .isFolder
      | _ => .ok (tree.put names (.file content))

/-- Make the folders of a list of names, from the outermost on. -/
def makeFrom (tree : Tree) (reached : List String) : List String → Except FileFault Tree
  | [] => .ok tree
  | name :: rest =>
    let names := reached ++ [name]
    match tree.node? names with
    | none => makeFrom (tree.put names .folder) names rest
    | some .folder => makeFrom tree names rest
    | some (.file _) => .error (if rest.isEmpty then .exists else .notFolder)

/-- Make a folder and the folders around it. -/
def makeFolders (tree : Tree) (path : String) : Except FileFault Tree :=
  match tree.route? path with
  | none => .error .missing
  | some steps => makeFrom tree [] (steps.filterMap Component.name?)

/-- Remove a file. -/
def remove (tree : Tree) (path : String) : Except FileFault Tree := do
  let names ← tree.resolve path
  match tree.node? names with
  | none => .error .missing
  | some .folder => .error .isFolder
  | some (.file _) =>
    .ok { tree with entries := tree.entries.filter fun entry => entry.1 != names }

/-- Move a file, over another file if there is one. -/
def move (tree : Tree) (source target : String) : Except FileFault Tree := do
  match ← tree.find source with
  | .folder => .error .isFolder
  | .file content =>
    let moved ← tree.write target content
    moved.remove source

/-- Append to a file, which is made if there is none. -/
def append (tree : Tree) (path text : String) : Except FileFault Tree :=
  match tree.find path with
  | .ok (.file before) => tree.write path (before.append text)
  | _ => tree.write path (.text text)

/-- Remove what is under a path, with everything in it. -/
def removeAll (tree : Tree) (path : String) : Tree :=
  match tree.resolve path with
  | .error _ => tree
  | .ok names =>
    { tree with entries := tree.entries.filter fun entry => !names.isPrefixOf entry.1 }

/-- Make the folders around a path and write a file there. -/
def plant (tree : Tree) (path : String) (content : Content) : Except FileFault Tree := do
  let names := (Location.names path).dropLast
  let tree ← makeFrom tree [] names
  tree.write path content

/-- The names in a folder, in increasing order. -/
def namesIn (tree : Tree) (path : String) : List String :=
  match tree.resolve path with
  | .error _ => []
  | .ok folder =>
    let names := tree.entries.filterMap fun entry =>
      if entry.1.length == folder.length + 1 && folder.isPrefixOf entry.1 then entry.1.getLast?
      else none
    names.mergeSort fun first second => !decide (second < first)

/-- The folder under a list of names as a directory of its own. -/
def below (tree : Tree) (names : List String) : Tree :=
  { root := Location.joinNames tree.root names
    entries := tree.entries.filterMap fun (path, node) =>
      match names.isPrefixOf? path with
      | some rest => if rest.isEmpty then none else some (rest, node)
      | none => none }

/-- Replace everything in the folder under a list of names by what is in a directory. -/
def graft (tree : Tree) (names : List String) (inner : Tree) : Tree :=
  let outside := tree.entries.filter fun entry =>
    !names.isPrefixOf entry.1 || entry.1.length ≤ names.length
  { tree with entries := outside ++ inner.entries.map fun (path, node) => (names ++ path, node) }

end Tree
end QualityGate
