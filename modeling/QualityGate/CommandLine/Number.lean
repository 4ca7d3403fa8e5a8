import QualityGate.Decimal

/-!
# Numbers on a command line

A natural number of 64 bits, and a floating point number in the notation of arguments: digits with a
point anywhere among them, an exponent, or a word for infinity or no number.
-/

namespace QualityGate
namespace CommandLine

/-- A sign, and what follows it. -/
def signOf : List Char → Bool × List Char
  | '-' :: rest => (true, rest)
  | '+' :: rest => (false, rest)
  | rest => (false, rest)

/-- Digits, at least one of them. -/
def isDigits (characters : List Char) : Bool :=
  !characters.isEmpty && characters.all Char.isDigit

/-- A natural number of 64 bits; a plus sign may stand before it. -/
def natural64? (text : String) : Option Nat :=
  let digits := match text.toList with
    | '+' :: rest => rest
    | rest => rest
  let value := Text.decimalValue digits
  if isDigits digits && value < Word.bound 64 then some value else none

/-- An exponent with its mark; nothing stands for zero. -/
def exponentOf? : List Char → Option Int
  | [] => some 0
  | mark :: rest =>
    let (negative, digits) := signOf rest
    if (mark == 'e' || mark == 'E') && isDigits digits then
      let value : Int := Text.decimalValue digits
      some (if negative then -value else value)
    else none

/-- A floating point number with digits and without a sign. -/
def magnitudeOf? (characters : List Char) : Option Float := do
  let whole := characters.takeWhile Char.isDigit
  let rest := characters.dropWhile Char.isDigit
  let (fraction, rest) := match rest with
    | '.' :: others => (others.takeWhile Char.isDigit, others.dropWhile Char.isDigit)
    | _ => ([], rest)
  let exponent ← exponentOf? rest
  if whole.isEmpty && fraction.isEmpty then none
  else return Decimal.ofDigits (whole ++ fraction) (exponent - fraction.length)

/-- A floating point number. -/
def float? (text : String) : Option Float :=
  let (negative, rest) := signOf text.toList
  let word := String.ofList rest
  let magnitude? :=
    if ["inf", "infinity"].any (Text.equalIgnoringCase word) then some (1.0 / 0.0)
    else if Text.equalIgnoringCase word "nan" then some (0.0 / 0.0)
    else magnitudeOf? rest
  magnitude?.map fun magnitude => if negative then -magnitude else magnitude

/-- The characters look like a number: digits, at most one point behind the first of them, and at
most one exponent, which has a digit. -/
def looksNumeric (first : Bool) (pointAllowed : Bool) (exponentAllowed : Bool) : List Char → Bool
  | [] => true
  | character :: rest =>
    if character.isDigit then looksNumeric false pointAllowed exponentAllowed rest
    else if character == '.' && pointAllowed && !first then
      looksNumeric false false exponentAllowed rest
    else if character == 'e' && exponentAllowed && !first then
      !rest.isEmpty && looksNumeric false false false rest
    else false

/-- The argument looks like a negative number. -/
def isNegativeNumber (argument : String) : Bool :=
  match argument.toList with
  | '-' :: rest => !rest.isEmpty && looksNumeric true true true rest
  | _ => false

end CommandLine
end QualityGate
