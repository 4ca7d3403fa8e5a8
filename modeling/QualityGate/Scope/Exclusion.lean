import QualityGate.Scope.Ignore
import QualityGate.Settings
import QualityGate.Tree

/-!
# Excluded paths

Rules are about whole components of a path: a folder rule is about consecutive folders, a file rule
about the name of the file.  A list of ignored files in the project adds to them.
-/

namespace QualityGate
namespace Scope

/-- The list of ignored files of a project. -/
def ignoreFile : String := ".qgateignore"

/-- The folders that are never looked at. -/
def defaultFolders : List String :=
  ["node_modules", ".next", "target", ".venv", "venv", "__pycache__", "dist", "build", "vendor",
    ".git", ".hg", ".svn", ".turbo", "coverage", ".nyc_output", ".pytest_cache", ".mypy_cache",
    ".ruff_cache", "htmlcov", ".tox", ".qgate"]

/-- The files that are never looked at. -/
def defaultFiles : List String :=
  ["package-lock.json", "pnpm-lock.yaml", "yarn.lock", "Cargo.lock", "poetry.lock",
    "Gemfile.lock", "composer.lock", ".DS_Store", "*.min.js", "*.min.css", "*.map"]

/-- Which paths are left out. -/
structure Exclusion where
  folderRules : List (List String)
  fileNames : List String
  fileGlobs : List Glob
  ignoreRules : List Ignore.Rule

namespace Exclusion

/-- The segments of a folder rule. -/
def segmentsOf (rule : String) : List String :=
  (Text.splitWhere (· == '/') rule).filter fun segment => segment != ""

/-- The file rule has a wildcard. -/
def isWildcard (rule : String) : Bool :=
  rule.toList.any ['*', '?', '['].contains

/-- Put the segments of a rule among those of others, in increasing order and without
repetition. -/
def insertRule (segments : List String) : List (List String) → List (List String)
  | [] => [segments]
  | first :: rest =>
    if segments < first then segments :: first :: rest
    else if segments = first then first :: rest
    else first :: insertRule segments rest

/-- The exclusion by folder rules and file rules.  A rule without segments and a glob that cannot be
read do not count. -/
def ofRules (folders files : List String) : Exclusion :=
  { folderRules :=
      ((folders.map segmentsOf).filter fun segments => !segments.isEmpty).foldr insertRule []
    fileNames := files.filter fun rule => !isWildcard rule
    fileGlobs := (files.filter isWildcard).filterMap fun rule =>
      (Glob.parse .plain rule).toOption
    ignoreRules := [] }

/-- The exclusion without any settings. -/
def standard : Exclusion :=
  ofRules defaultFolders defaultFiles

/-- The exclusion of a project: the standard one, its settings, and its list of ignored files. -/
def ofProject (tree : Tree) (settings : ScopeSettings) : Exclusion :=
  let rules := ofRules (defaultFolders ++ settings.excludeDirs)
    (defaultFiles ++ settings.excludeFiles)
  match tree.readLeading ignoreFile with
  | .ok text => { rules with ignoreRules := Ignore.parse text }
  | .error _ => rules

/-- The rule occurs in consecutive folders. -/
def occursIn (rule : List String) : List String → Bool
  | [] => rule.isEmpty
  | folder :: rest => rule.isPrefixOf (folder :: rest) || occursIn rule rest

/-- The path is left out. -/
def excludes (exclusion : Exclusion) (path : String) : Bool :=
  let names := Location.names path
  match names.getLast? with
  | none => true
  | some file =>
    exclusion.folderRules.any (fun rule => occursIn rule names.dropLast) ||
      exclusion.fileNames.contains file ||
      exclusion.fileGlobs.any (fun glob => glob.accepts file) ||
      Ignore.verdictWithParents? exclusion.ignoreRules path == some .ignored

end Exclusion
end Scope
end QualityGate
