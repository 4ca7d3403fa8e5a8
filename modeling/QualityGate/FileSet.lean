import QualityGate.Tree

/-!
# Sets of files

The files a run looks at: paths in the order of their components, one spelling for each place.
-/

namespace QualityGate

/-- Paths in increasing order of their components, without repetition. -/
structure FileSet where
  paths : List String
deriving Repr, DecidableEq, Inhabited

namespace FileSet

/-- The order of paths by their components. -/
def comparePaths (first second : String) : Ordering :=
  Location.compareComponents (Location.components first) (Location.components second)

/-- Of consecutive equal paths, keep the last. -/
def keepLast : List String → List String
  | [] => []
  | [path] => [path]
  | first :: second :: rest =>
    if comparePaths first second == .eq then keepLast (second :: rest)
    else first :: keepLast (second :: rest)

/-- Only given paths are kept. -/
theorem keepLast_sublist (paths : List String) : (keepLast paths).Sublist paths := by
  fun_induction keepLast paths with
  | case1 => exact List.Sublist.refl _
  | case2 path => exact List.Sublist.refl _
  | case3 first second rest equal ih => exact ih.cons first
  | case4 first second rest differ ih => exact ih.cons_cons first

/-- The set of the given paths.  Of several spellings of one place the last one is kept. -/
def ofList (paths : List String) : FileSet :=
  ⟨keepLast (paths.mergeSort fun first second => (comparePaths first second).isLE)⟩

/-- A set has only paths that it was made of. -/
theorem mem_of_mem_ofList {paths : List String} {path : String}
    (member : path ∈ (ofList paths).paths) : path ∈ paths := by
  simpa using (keepLast_sublist _).subset member

/-- The number of files. -/
def size (files : FileSet) : Nat :=
  files.paths.length

end FileSet

/-- A text file that was read. -/
structure Source where
  path : String
  content : String
deriving Repr, DecidableEq, Inhabited

namespace Source

/-- The path as findings show it. -/
def display (source : Source) : String :=
  Location.display source.path

/-- The extension in lowercase. -/
def extension? (source : Source) : Option String :=
  Location.lowerExtension? source.path

/-- The lines of the file. -/
def lines (source : Source) : List String :=
  Text.lines source.content

/-- The number of lines of the file. -/
def lineCount (source : Source) : Nat :=
  source.lines.length

/-- Extensions of prose and data, which have neither code nor comments. -/
def proseOrDataExtensions : List String :=
  ["md", "mdx", "rst", "txt", "adoc", "json", "jsonc", "lock", "csv", "tsv", "svg", "snap", "log"]

/-- The path is prose or data. -/
def isProseOrData (path : String) : Bool :=
  (Location.lowerExtension? path).any proseOrDataExtensions.contains

/-! ## Loading -/

/-- The text file under a path, unless it is missing or no text. -/
def read? (tree : Tree) (path : String) : Option Source :=
  match tree.read path with
  | .ok content => some ⟨path, content⟩
  | .error _ => none

/-- Paths in batches of `size + 1`, except that the first batch has room for no more than a given
number of paths behind its first one. -/
def batchesFrom (size : Nat) : Nat → List String → List (List String)
  | _, [] => []
  | 0, first :: rest => [first] :: batchesFrom size size rest
  | room + 1, first :: rest =>
    match batchesFrom size room rest with
    | [] => [[first]]
    | batch :: others => (first :: batch) :: others

/-- Paths in batches of a size; a batch has at least one path. -/
def batches (size : Nat) (paths : List String) : List (List String) :=
  batchesFrom (size - 1) (size - 1) paths

/-- No path is lost, and their order stays. -/
theorem flatten_batchesFrom (size room : Nat) (paths : List String) :
    (batchesFrom size room paths).flatten = paths := by
  fun_induction batchesFrom size room paths with
  | case1 => rfl
  | case2 first rest ih => simp [ih]
  | case3 room first rest empty ih => simpa [empty] using ih
  | case4 room first rest batch others following ih => simpa [following] using ih

example : batches 2 ["a", "b", "c", "d", "e"] = [["a", "b"], ["c", "d"], ["e"]] := by decide

/-- Load the wanted text files of a set in batches of a size, one batch after the other. -/
def loadInBatches (size : Nat) (tree : Tree) (files : FileSet) (wanted : String → Bool) :
    List Source :=
  (batches size (files.paths.filter wanted)).flatMap fun batch => batch.filterMap (read? tree)

/-- How many files detectors read at a time. -/
def batchSize : Nat := 10

/-- The wanted text files of a set, in its order.  Files that are missing or no text are left
out. -/
def load (tree : Tree) (files : FileSet) (wanted : String → Bool) : List Source :=
  loadInBatches batchSize tree files wanted

/-- Where the batches begin and end makes no difference. -/
theorem loadInBatches_eq (size : Nat) (tree : Tree) (files : FileSet) (wanted : String → Bool) :
    loadInBatches size tree files wanted =
      (files.paths.filter wanted).filterMap (read? tree) := by
  rw [loadInBatches, List.flatMap_def, ← List.filterMap_flatten, batches, flatten_batchesFrom]

end Source
end QualityGate
