import QualityGate.Text.Letter

/-!
# Words of a name

A name is cut into words at everything that is neither letter nor number, and inside a stretch of
letters and numbers where the case shows that a word begins.  Acronyms stay together.
-/

namespace QualityGate
namespace Naming

/-- A word begins at `current`, which stands between two characters. -/
def startsWord (before current : Char) (after? : Option Char) : Bool :=
  Text.isUppercase current &&
    (Text.isLowercase before || before.isDigit ||
      (Text.isUppercase before && after?.any Text.isLowercase))

/-- Cut characters wherever a word begins. -/
def chunks : List Char → List (List Char)
  | [] => []
  | [only] => [[only]]
  | first :: second :: rest =>
    let following := chunks (second :: rest)
    if startsWord first second rest.head? then [first] :: following
    else
      match following with
      | [] => [[first]]
      | chunk :: others => (first :: chunk) :: others

/-- No character of a stretch is lost. -/
theorem flatten_chunks (characters : List Char) : (chunks characters).flatten = characters := by
  fun_induction chunks characters with
  | case1 => rfl
  | case2 only => rfl
  | case3 first second rest following begins ih => simpa [following] using ih
  | case4 first second rest following goesOn isNil ih =>
    have none : chunks (second :: rest) = [] := isNil
    simp [none] at ih
  | case5 first second rest following goesOn chunk others isCons ih =>
    have some : chunks (second :: rest) = chunk :: others := isCons
    simpa [some] using ih

/-- The words of a name as they are written. -/
def nameChunks (name : List Char) : List (List Char) :=
  (name.splitOnP fun character => !Text.isAlphanumeric character).flatMap chunks

/-- The words of a name in lowercase. -/
def segments (name : String) : List String :=
  (nameChunks name.toList).map fun chunk => Text.lower (String.ofList chunk)

end Naming
end QualityGate
