import QualityGate.Scope.Exclusion

/-!
# Walking the tree

All files of a project, without those that its lists of ignored files leave out.  A list is about
the paths below its folder.  Of the kinds of lists, the first one that says something decides, and
of the lists of one kind the innermost.  Ignored folders are not entered.
-/

namespace QualityGate
namespace Scope

/-- The kinds of lists of ignored files, by decreasing precedence. -/
def ignoreLists : List String :=
  [ignoreFile, ".ignore", ".gitignore", ".git/info/exclude"]

/-- The rules of a list in a folder. -/
def rulesIn (tree : Tree) (folder : List String) (list : String) : List Ignore.Rule :=
  let path := String.intercalate "/" (folder ++ [list])
  match tree.readLeading path with
  | .ok text => Ignore.parse text
  | .error _ => []

/-- The lists that count in a folder: for every kind, the rules of each folder on the way, the
innermost first, with the number of names of that folder. -/
abbrev Listing := List (List (Nat × List Ignore.Rule))

/-- The lists that count in a folder, given those around it. -/
def Listing.enter (tree : Tree) (outer : Listing) (folder : List String) : Listing :=
  (ignoreLists.zip outer).map fun (list, levels) =>
    (folder.length, rulesIn tree folder list) :: levels

/-- No list. -/
def Listing.none : Listing :=
  ignoreLists.map fun _ => []

/-- What the lists say about an entry. -/
def Listing.verdict? (listing : Listing) (names : List String) (isFolder : Bool) :
    Option Ignore.Verdict :=
  listing.findSome? fun levels =>
    levels.findSome? fun (depth, rules) =>
      Ignore.verdict? rules (String.intercalate "/" (names.drop depth)) isFolder

/-- The entries of a folder with their names. -/
def entriesOf (tree : Tree) (folder : List String) : List (List String × Node) :=
  tree.entries.filter fun entry =>
    entry.1.length == folder.length + 1 && folder.isPrefixOf entry.1

/-- The files below a folder; the fuel bounds the depth. -/
def filesBelow (tree : Tree) : Nat → Listing → List String → List (List String)
  | 0, _, _ => []
  | fuel + 1, outer, folder =>
    let listing := outer.enter tree folder
    (entriesOf tree folder).flatMap fun (names, node) =>
      let isFolder := node == .folder
      if names.getLast? == some ".git" || listing.verdict? names isFolder == some .ignored then []
      else if isFolder then filesBelow tree fuel listing names
      else [names]

/-- The paths of all files of a project that no list leaves out. -/
def walk (tree : Tree) : List String :=
  let deepest := (tree.entries.map fun entry => entry.1.length).foldl max 0
  (filesBelow tree (deepest + 1) .none []).map (String.intercalate "/")

end Scope
end QualityGate
