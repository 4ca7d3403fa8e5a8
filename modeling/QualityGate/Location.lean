import QualityGate.Text.Letter

/-!
# Locations

A location is the text of a path.  What it means is given by its components: empty components and
inner dots do not count, so several spellings denote one place.
-/

namespace QualityGate

/-- One step of a path. -/
inductive Component where
  | root
  | current
  | parent
  | name (text : String)
deriving Repr, DecidableEq, Inhabited

namespace Component

/-- The rank of the kind of a component. -/
def rank : Component → Nat
  | .root => 0
  | .current => 1
  | .parent => 2
  | .name _ => 3

/-- Kinds in the order of their ranks, names in the order of their characters. -/
def compare : Component → Component → Ordering
  | .name first, .name second => Ord.compare first second
  | first, second => Ord.compare first.rank second.rank

/-- The text of a named component. -/
def name? : Component → Option String
  | .name text => some text
  | _ => none

end Component

namespace Location

/-- The component of a piece between slashes, if it counts. -/
def ofPiece (piece : String) : Option Component :=
  if piece == "" || piece == "." then none
  else if piece == ".." then some .parent
  else some (.name piece)

/-- The components of a path. -/
def components (path : String) : List Component :=
  let pieces := Text.splitWhere (· == '/') path
  let lead : List Component :=
    if Text.startsWith path "/" then [.root]
    else if pieces.head? == some "." then [.current]
    else []
  lead ++ pieces.filterMap ofPiece

/-- The order of lists of components. -/
def compareComponents : List Component → List Component → Ordering
  | [], [] => .eq
  | [], _ :: _ => .lt
  | _ :: _, [] => .gt
  | first :: firsts, second :: seconds =>
    (first.compare second).then (compareComponents firsts seconds)

/-- The names among the components of a path. -/
def names (path : String) : List String :=
  (components path).filterMap Component.name?

/-- The name of the file a path denotes. -/
def fileName? (path : String) : Option String :=
  (components path).getLast?.bind Component.name?

/-- A file name cut at its last dot; a dot at the front does not count. -/
def splitName (name : String) : String × Option String :=
  let characters := name.toList
  let ending := (characters.reverse.takeWhile (· != '.')).reverse
  let stem := characters.take (characters.length - ending.length - 1)
  if ending.length == characters.length || stem.isEmpty then (name, none)
  else (String.ofList stem, some (String.ofList ending))

/-- What follows the last dot of the file name. -/
def extension? (path : String) : Option String :=
  (fileName? path).bind fun name => (splitName name).2

/-- The file name without its extension. -/
def stem? (path : String) : Option String :=
  (fileName? path).map fun name => (splitName name).1

/-- The extension in lowercase. -/
def lowerExtension? (path : String) : Option String :=
  (extension? path).map Text.lower

/-- A path as findings show it: with slashes only. -/
def display (path : String) : String :=
  Text.replace '\\' '/' path

/-- The path of `path` seen from `base`. -/
def join (base path : String) : String :=
  if Text.startsWith path "/" then path
  else if base == "" || Text.endsWith base "/" then base ++ path
  else base ++ "/" ++ path

/-- The path that goes from `base` along names. -/
def joinNames (base : String) (names : List String) : String :=
  names.foldl join base

end Location
end QualityGate
