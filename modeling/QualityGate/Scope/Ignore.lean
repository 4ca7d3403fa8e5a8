import QualityGate.Glob
import QualityGate.Location

/-!
# Lists of ignored files

Every line of such a list is a rule about the paths below its folder; the last rule that fits
decides.  A rule may take a path back in, and may be about folders only.
-/

namespace QualityGate
namespace Ignore

/-- A rule of a list. -/
structure Rule where
  glob : Glob
  /-- The rule takes paths back in. -/
  keeps : Bool
  /-- The rule is about folders only. -/
  foldersOnly : Bool

/-- What a list says about a path. -/
inductive Verdict where
  | ignored
  | kept
deriving Repr, DecidableEq

/-- A line without the blanks at its end, unless the last one is protected. -/
def trimmedLine (line : String) : List Char :=
  if Text.endsWith line "\\ " then line.toList else Text.dropEnd Text.isBlank line.toList

/-- The marks at the front of a line: whether the rule keeps paths, whether it is bound to the
folder of the list, and the rest of the line. -/
def readMarks (line : List Char) : Bool × Bool × List Char :=
  match line with
  | '\\' :: '!' :: rest => (false, false, '!' :: rest)
  | '\\' :: '#' :: rest => (false, false, '#' :: rest)
  | '!' :: '/' :: rest => (true, true, rest)
  | '!' :: rest => (true, false, rest)
  | '/' :: rest => (false, true, rest)
  | rest => (false, false, rest)

/-- Remove the slash at the back, and a backslash in front of it. -/
def dropSlash (line : List Char) : List Char :=
  let shorter := line.dropLast
  if shorter.getLast? == some '\\' then shorter.dropLast else shorter

/-- The glob of a line: a line without a slash is about names in any folder, and what ends with two
stars is about what is inside. -/
def globText (bound : Bool) (line : List Char) : String :=
  let text := String.ofList line
  let anywhere :=
    if !bound && !line.contains '/' && !(Text.startsWith text "**/" || text == "**") then
      "**/" ++ text
    else text
  if Text.endsWith anywhere "/**" then anywhere ++ "/*" else anywhere

/-- The rule of a line, if it has one. -/
def readLine? (line : String) : Option Rule :=
  let trimmed := trimmedLine line
  if trimmed.isEmpty || Text.startsWith line "#" then none
  else
    let (keeps, bound, marked) := readMarks trimmed
    let foldersOnly := marked.getLast? == some '/'
    let content := if foldersOnly then dropSlash marked else marked
    match Glob.parse .ignoring (globText bound content) with
    | .ok glob => some ⟨glob, keeps, foldersOnly⟩
    | .error _ => none

/-- Remove byte order marks at the front of a text. -/
def dropOrderMarks (text : String) : String :=
  Text.onCharacters (Text.dropStart (· == '\ufeff')) text

/-- The rules of a list. -/
def parse (text : String) : List Rule :=
  (Text.lines (dropOrderMarks text)).filterMap readLine?

/-- What rules say about a path relative to their folder: the last one that fits decides. -/
def verdict? (rules : List Rule) (path : String) (isFolder : Bool) : Option Verdict :=
  (rules.reverse.find? fun rule =>
    (isFolder || !rule.foldersOnly) && rule.glob.accepts path).map fun rule =>
      if rule.keeps then .kept else .ignored

/-- Remove slashes, and dots between slashes, at the back; the fuel bounds their number. -/
def dropSeparators : Nat → List Char → List Char
  | 0, reversed => reversed
  | fuel + 1, '/' :: rest => dropSeparators fuel rest
  | fuel + 1, '.' :: '/' :: rest => dropSeparators fuel ('/' :: rest)
  | _ + 1, reversed => reversed

/-- The paths of the folders around a path, from the innermost to the directory itself. -/
def parentsFrom : Nat → List Char → List String
  | 0, _ => []
  | _ + 1, [] => []
  | fuel + 1, reversed =>
    let whole := dropSeparators reversed.length reversed
    let outer := dropSeparators whole.length (whole.dropWhile (· != '/'))
    String.ofList outer.reverse :: parentsFrom fuel outer

/-- The paths of the folders around a path, from the innermost to the directory itself. -/
def parents (path : String) : List String :=
  parentsFrom (path.length + 1) path.toList.reverse

/-- What rules say about a file or else about the innermost folder around it on which they say
something. -/
def verdictWithParents? (rules : List Rule) (path : String) : Option Verdict :=
  let start := (Text.dropPrefix? "./" path).getD path
  match verdict? rules start false with
  | some verdict => some verdict
  | none => (parents start).findSome? fun folder => verdict? rules folder true

end Ignore
end QualityGate
