import QualityGate.FileSet
import QualityGate.Scope.Git
import QualityGate.Scope.Walk

/-!
# The files of a run

The context tells which files git is asked for.  Where git has no answer the whole tree is walked,
and a notice says so.
-/

namespace QualityGate
namespace Scope

/-- Where the list of files comes from. -/
inductive Origin where
  | stagedDiff
  | pushRange
  | trackedTree
  | fullTreeFallback
deriving Repr, DecidableEq, Inhabited

namespace Origin

/-- The name of an origin. -/
def name : Origin → String
  | .stagedDiff => "staged_diff"
  | .pushRange => "push_range"
  | .trackedTree => "tracked_tree"
  | .fullTreeFallback => "full_tree_fallback"

/-- The label of an origin on the terminal. -/
def label : Origin → String
  | .stagedDiff => "StagedDiff"
  | .pushRange => "PushRange"
  | .trackedTree => "TrackedTree"
  | .fullTreeFallback => "FullTreeFallback"

/-- The origins under their names. -/
def byName : List (String × Origin) :=
  [Origin.stagedDiff, .pushRange, .trackedTree, .fullTreeFallback].map fun origin =>
    (origin.name, origin)

/-- The origin of the files of a context that git lists. -/
def ofContext : Context → Origin
  | .commit => .stagedDiff
  | .push => .pushRange
  | .ci => .trackedTree

end Origin

/-- The files of a run, where they come from, and remarks on that. -/
structure Resolution where
  files : FileSet
  origin : Origin
  notices : List String

/-- The files that git lists for a context. -/
def listed (git : Git) (pushBase? : Option String) : Context → Except Failure (List String)
  | .commit => git.staged
  | .push => git.pushRange pushBase?
  | .ci => git.tracked

/-- The paths to choose from: what git lists, or the whole tree with a notice. -/
def candidates (tree : Tree) (git : Git) (pushBase? : Option String) (context : Context) :
    Origin × List String × List String :=
  if git.isAvailable then
    match listed git pushBase? context with
    | .ok paths => (.ofContext context, paths, [])
    | .error failure =>
      (.fullTreeFallback, walk tree,
        ["Could not resolve " ++ context.name ++ " scope (" ++ failure.message ++
          "); analyzed the full tree instead"])
  else
    (.fullTreeFallback, walk tree,
      ["git is unavailable; analyzed the full tree instead of the " ++ context.name ++ " scope"])

/-- Choose the files of a run: those that exist and are not excluded. -/
def resolve
    (tree : Tree)
    (exclusion : Exclusion)
    (git : Git)
    (pushBase? : Option String)
    (context : Context) : Resolution :=
  let (origin, paths, notices) := candidates tree git pushBase? context
  let kept := paths.filter fun path => !exclusion.excludes path && tree.isFile path
  let files := FileSet.ofList kept
  let remark := if files.paths.isEmpty then ["No files in " ++ context.name ++ " scope"] else []
  ⟨files, origin, notices ++ remark⟩

end Scope
end QualityGate
