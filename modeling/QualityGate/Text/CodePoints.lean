import QualityGate.Text.Basic

/-!
# Sets and maps of code points

A set of code points is an increasing array of closed ranges and is asked by bisection.  A map
shifts the code points of each range by a fixed amount.  Both are written down as text: a range is
one or two hexadecimal numbers joined by a hyphen.
-/

namespace QualityGate
namespace Text

/-- A closed range of code points. -/
structure CodeRange where
  first : Nat
  last : Nat
deriving Repr, DecidableEq, Inhabited

namespace CodeRange

/-- The code point lies in the range. -/
def contains (range : CodeRange) (code : Nat) : Bool :=
  range.first ≤ code && code ≤ range.last

/-- The value of hexadecimal digits; other characters count as zero. -/
def hexNumber (digits : List Char) : Nat :=
  digits.foldl (fun value digit => value * 16 + (hexValue? digit).getD 0) 0

/-- Read `first-last`, or `only` for a range of one code point. -/
def ofCharacters (characters : List Char) : CodeRange :=
  match characters.splitOnP (· == '-') with
  | [first, last] => ⟨hexNumber first, hexNumber last⟩
  | _ => ⟨hexNumber characters, hexNumber characters⟩

end CodeRange

/-- A set of code points as increasing disjoint ranges. -/
structure CodePoints where
  ranges : Array CodeRange

namespace CodePoints

/-- Read lines of ranges that are separated by blanks. -/
def ofLines (lines : List String) : CodePoints :=
  ⟨(lines.flatMap fun line => (wordsOf line.toList).map CodeRange.ofCharacters).toArray⟩

/-- Look for the range of a code point among `count` ranges from `start`; the fuel bounds the
number of halvings. -/
def searchFrom (ranges : Array CodeRange) (code : Nat) : Nat → Nat → Nat → Bool
  | 0, _, _ => false
  | fuel + 1, start, count =>
    if count == 0 then false
    else
      let middle := start + count / 2
      match ranges[middle]? with
      | none => false
      | some range =>
        if code < range.first then searchFrom ranges code fuel start (count / 2)
        else if range.last < code then
          searchFrom ranges code fuel (middle + 1) (count - count / 2 - 1)
        else true

/-- The code point belongs to the set. -/
def contains (points : CodePoints) (code : Nat) : Bool :=
  searchFrom points.ranges code (points.ranges.size + 1) 0 points.ranges.size

end CodePoints

/-- Every `step`-th code point of a range is moved by one distance, up or down. -/
structure CodeShift where
  range : CodeRange
  step : Nat
  upward : Bool
  distance : Nat
deriving Repr, Inhabited

namespace CodeShift

/-- Read `range/step+distance` or `range/step=distance`, where `=` moves downward. -/
def ofCharacters (characters : List Char) : CodeShift :=
  let range := characters.takeWhile (· != '/')
  let movement := (characters.dropWhile (· != '/')).drop 1
  let step := movement.takeWhile fun character => character != '+' && character != '='
  let tail := movement.drop step.length
  { range := CodeRange.ofCharacters range
    step := CodeRange.hexNumber step
    upward := tail.head? == some '+'
    distance := CodeRange.hexNumber (tail.drop 1) }

/-- The image of a code point, if the shift is about it. -/
def image? (shift : CodeShift) (code : Nat) : Option Nat :=
  if shift.range.contains code && (code - shift.range.first) % shift.step == 0 then
    some (if shift.upward then code + shift.distance else code - shift.distance)
  else none

end CodeShift

/-- Shifts in increasing order of their ranges. -/
structure CodeShifts where
  shifts : Array CodeShift

namespace CodeShifts

/-- Read lines of shifts that are separated by blanks. -/
def ofLines (lines : List String) : CodeShifts :=
  ⟨(lines.flatMap fun line => (wordsOf line.toList).map CodeShift.ofCharacters).toArray⟩

/-- The image of a code point; points outside every shift stay. -/
def apply (table : CodeShifts) (code : Nat) : Nat :=
  (table.shifts.findSome? fun shift => shift.image? code).getD code

end CodeShifts

end Text
end QualityGate
