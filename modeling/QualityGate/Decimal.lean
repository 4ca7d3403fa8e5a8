import QualityGate.Text.Basic
import QualityGate.Word

/-!
# Floating point numbers in decimal

A finite number is a signed dyadic `mantissa * 2 ^ exponent`.  Its shortest decimal has the fewest
digits among the decimals that round to it, and is the nearest of those.  All comparisons are done
on natural numbers.
-/

namespace QualityGate
namespace Decimal

/-! ## Binary form -/

/-- A number `mantissa * 2 ^ (raised - 1074)`. -/
structure Dyadic where
  mantissa : Nat
  raised : Nat
deriving Repr, DecidableEq

/-- The sign bit of a number. -/
def isNegative (value : Float) : Bool :=
  value.toBits >>> 63 == 1

/-- The magnitude of a finite number. -/
def magnitude (value : Float) : Dyadic :=
  let bits := value.toBits.toNat
  let fraction := bits % Word.bound 52
  let biased := bits / Word.bound 52 % Word.bound 11
  if biased == 0 then ⟨fraction, 0⟩ else ⟨fraction + Word.bound 52, biased - 1⟩

/-- The bit pattern of a number as sixteen hexadecimal digits. -/
def bitText (value : Float) : String :=
  Text.hex 16 value.toBits.toNat

/-! ## Shortest digits -/

/-- An interval of rational numbers around a value, all over one denominator. -/
structure Interval where
  low : Nat
  value : Nat
  high : Nat
  denominator : Nat
  closed : Bool
deriving Repr

/-- The rational numbers that are rounded to a given dyadic. -/
def Dyadic.interval (number : Dyadic) : Interval :=
  let below := if number.mantissa == Word.bound 52 && 0 < number.raised then 1 else 2
  let scale := Nat.pow 2 number.raised
  { low := (4 * number.mantissa - below) * scale
    value := 4 * number.mantissa * scale
    high := (4 * number.mantissa + 2) * scale
    denominator := Nat.pow 2 1076
    closed := number.mantissa % 2 == 0 }

/-- The decimal `digits * 10 ^ (- places)` lies in the interval. -/
def Interval.holds (interval : Interval) (digits power unit : Nat) : Bool :=
  let point := digits * unit * interval.denominator
  let low := interval.low * power
  let high := interval.high * power
  if interval.closed then low ≤ point && point ≤ high else low < point && point < high

/-- A positive decimal: its digits as a number, and the power of ten of the last digit. -/
structure Digits where
  number : Nat
  exponent : Int
deriving Repr, DecidableEq

/-- The least number of places that brings a positive fraction to at least one; the fuel bounds the
search. -/
def leadingPlaces (numerator denominator : Nat) : Nat → Nat
  | 0 => 0
  | fuel + 1 =>
    if denominator ≤ numerator then 0
    else leadingPlaces (numerator * 10) denominator fuel + 1

/-- The exponent of the first decimal digit of a positive fraction. -/
def leadingExponent (numerator denominator : Nat) : Int :=
  if denominator ≤ numerator then
    ((Nat.toDigits 10 (numerator / denominator)).length : Int) - 1
  else - (leadingPlaces numerator denominator 400 : Int)

/-- The best decimal on the grid of multiples of `10 ^ exponent`, if one lies in the interval.  Of
the two neighbours of the value the nearer one wins, and the even one if both are as near. -/
def Interval.onGrid (interval : Interval) (exponent : Int) : Option Digits :=
  let power := if exponent < 0 then Nat.pow 10 exponent.natAbs else 1
  let unit := if exponent < 0 then 1 else Nat.pow 10 exponent.natAbs
  let numerator := interval.value * power
  let denominator := interval.denominator * unit
  let floor := numerator / denominator
  let above := 2 * (numerator % denominator)
  let nearFloor := above < denominator || (above == denominator && floor % 2 == 0)
  let first := if nearFloor then floor else floor + 1
  let second := if nearFloor then floor + 1 else floor
  if interval.holds first power unit then some ⟨first, exponent⟩
  else if interval.holds second power unit then some ⟨second, exponent⟩
  else none

/-- Try grids from the coarsest to the finest. -/
def Interval.search (interval : Interval) (leading : Int) : Nat → Nat → Option Digits
  | 0, _ => none
  | fuel + 1, count =>
    match interval.onGrid (leading + 1 - count) with
    | some digits => some digits
    | none => interval.search leading fuel (count + 1)

/-- Move the zeros at the end of a number into its exponent; the fuel bounds their number. -/
def Digits.dropZeros (digits : Digits) : Nat → Digits
  | 0 => digits
  | fuel + 1 =>
    if digits.number != 0 && digits.number % 10 == 0 then
      dropZeros ⟨digits.number / 10, digits.exponent + 1⟩ fuel
    else digits

/-- The shortest decimal of a positive dyadic. -/
def Dyadic.shortest (number : Dyadic) : Digits :=
  let interval := number.interval
  let leading := leadingExponent interval.value interval.denominator
  ((interval.search leading 17 1).getD ⟨0, 0⟩).dropZeros 20

/-! ## Notation -/

/-- A positive decimal in writing: positional from five zeros after the point up to sixteen places
before it, always with a point, and otherwise with a mark `e` and a signed exponent. -/
def Digits.render (digits : Digits) : List Char :=
  let figures := Nat.toDigits 10 digits.number
  let count := figures.length
  let point : Int := count + digits.exponent
  if 0 ≤ digits.exponent && point ≤ 16 then
    figures ++ List.replicate digits.exponent.toNat '0' ++ ['.', '0']
  else if 0 < point && point ≤ 16 then
    figures.take point.toNat ++ '.' :: figures.drop point.toNat
  else if -5 < point && point ≤ 0 then
    ['0', '.'] ++ List.replicate (-point).toNat '0' ++ figures
  else
    let mark : Int := point - 1
    let exponent := (if mark < 0 then '-' else '+') :: Nat.toDigits 10 mark.natAbs
    match figures with
    | [figure] => figure :: 'e' :: exponent
    | figure :: others => figure :: '.' :: others ++ 'e' :: exponent
    | [] => []

/-- The shortest text of a finite number. -/
def render (value : Float) : String :=
  let number := magnitude value
  let sign := if isNegative value then ['-'] else []
  if number.mantissa == 0 then String.ofList (sign ++ ['0', '.', '0'])
  else String.ofList (sign ++ number.shortest.render)

/-! ## Rounding -/

/-- A quotient rounded to the nearest natural number; a half goes to the even neighbour. -/
def roundQuotient (numerator denominator : Nat) : Nat :=
  let floor := numerator / denominator
  let above := 2 * (numerator % denominator)
  if above < denominator || (above == denominator && floor % 2 == 0) then floor else floor + 1

/-- A finite non-negative number rounded to a natural number, a half to the even neighbour. -/
def roundToNatural (value : Float) : Nat :=
  let number := magnitude value
  roundQuotient (number.mantissa * Nat.pow 2 number.raised) (Nat.pow 2 1074)

/-- A number rounded to hundredths, a half away from zero. -/
def toHundredths (value : Float) : Float :=
  (value * 100.0).round / 100.0

/-- A power of ten, rounded to the nearest number. -/
def powerOfTen (exponent : Nat) : Float :=
  Float.ofScientific 1 false exponent

/-- The number closest to digits times a power of ten.  Beyond 400 places on either side the digits
do not matter any more. -/
def ofDigits (digits : List Char) (exponent : Int) : Float :=
  let value := Text.decimalValue digits
  let places : Int := (digits.dropWhile (· == '0')).length + exponent
  if value == 0 || places < -400 then 0.0
  else if 400 < places then 1.0 / 0.0
  else Float.ofScientific value (exponent < 0) exponent.natAbs

end Decimal
end QualityGate
