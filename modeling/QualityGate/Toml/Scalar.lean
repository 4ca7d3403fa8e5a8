import QualityGate.Decimal
import QualityGate.Instant.Basic
import QualityGate.Text.Basic
import QualityGate.Toml.Basic

/-!
# Plain values

Truth values, numbers, dates and times are written without quotes.  Digits of numbers may be grouped
by single underscores.
-/

namespace QualityGate
namespace Toml

/-- Remove the underscores between digits; there is nothing else, and at least one digit. -/
def ungroup (accepts : Char → Bool) : List Char → Option (List Char)
  | [] => none
  | [digit] => if accepts digit then some [digit] else none
  | digit :: '_' :: rest =>
    if accepts digit then (ungroup accepts rest).map (digit :: ·) else none
  | digit :: rest => if accepts digit then (ungroup accepts rest).map (digit :: ·) else none

/-- The value of digits in a base. -/
def valueIn (base : Nat) (digits : List Char) : Nat :=
  digits.foldl (fun value digit => value * base + (Text.hexValue? digit).getD 0) 0

/-- A sign, and what follows it. -/
def signed : List Char → Bool × List Char
  | '-' :: rest => (true, rest)
  | '+' :: rest => (false, rest)
  | rest => (false, rest)

/-! ## Integers -/

/-- The digits of a whole number in base ten: a zero comes first only if it is alone. -/
def wholeDigits? (characters : List Char) : Option (List Char) :=
  match characters with
  | '0' :: _ :: _ => none
  | _ => ungroup Char.isDigit characters

/-- An integer, as far as 128 bits have room for it. -/
def bounded (value : Int) : Toml :=
  if Word.spans 127 128 value then .integer value else .oversized

/-- A natural number in another base, without its mark. -/
def basedInteger? (base : Nat) (digits : List Char) : Option Toml :=
  let accepts (digit : Char) : Bool := (Text.hexValue? digit).any fun value => value < base
  (ungroup accepts digits).map fun digits => bounded (valueIn base digits)

/-- An integer in base ten. -/
def decimalInteger? (characters : List Char) : Option Toml := do
  let (negative, rest) := signed characters
  let value : Int := valueIn 10 (← wholeDigits? rest)
  return bounded (if negative then -value else value)

/-- An integer. -/
def integer? : List Char → Option Toml
  | '0' :: 'x' :: digits => basedInteger? 16 digits
  | '0' :: 'o' :: digits => basedInteger? 8 digits
  | '0' :: 'b' :: digits => basedInteger? 2 digits
  | characters => decimalInteger? characters

/-! ## Floating point numbers -/

/-- The exponent behind its mark. -/
def exponent? (characters : List Char) : Option Int := do
  let (negative, rest) := signed characters
  let value : Int := valueIn 10 (← ungroup Char.isDigit rest)
  return if negative then -value else value

/-- A floating point number that is not too large. -/
def finite (negative : Bool) (digits : List Char) (exponent : Int) : Toml :=
  let magnitude := Decimal.ofDigits digits exponent
  if magnitude.isInf then .oversized else .float (if negative then -magnitude else magnitude)

/-- A floating point number with digits: it has a fraction or an exponent. -/
def finite? (characters : List Char) : Option Toml := do
  let (negative, rest) := signed characters
  let isMark (character : Char) : Bool := character == 'e' || character == 'E'
  let mantissa := rest.takeWhile fun character => !isMark character
  let exponent ← match rest.dropWhile fun character => !isMark character with
    | [] => some 0
    | _ :: exponent => exponent? exponent
  match mantissa.dropWhile (· != '.') with
  | [] =>
    if mantissa.length == rest.length then none
    else return finite negative (← wholeDigits? mantissa) exponent
  | _ :: fraction =>
    let whole ← wholeDigits? (mantissa.takeWhile (· != '.'))
    let fraction ← ungroup Char.isDigit fraction
    return finite negative (whole ++ fraction) (exponent - fraction.length)

/-- A floating point number. -/
def float? (characters : List Char) : Option Toml :=
  let (negative, rest) := signed characters
  let value (magnitude : Float) : Toml := .float (if negative then -magnitude else magnitude)
  if rest == "inf".toList then some (value (1.0 / 0.0))
  else if rest == "nan".toList then some (value (0.0 / 0.0))
  else finite? characters

/-! ## Dates and times -/

/-- A number of two digits within bounds. -/
def pair? (low high : Nat) : List Char → Option (List Char)
  | tens :: ones :: rest =>
    let value := valueIn 10 [tens, ones]
    if tens.isDigit && ones.isDigit && low ≤ value && value ≤ high then some rest else none
  | _ => none

/-- Step over an expected character. -/
def after? (expected : Char) : List Char → Option (List Char)
  | character :: rest => if character == expected then some rest else none
  | [] => none

/-- What follows a date. -/
def date? (characters : List Char) : Option (List Char) := do
  let year := characters.take 4
  if !(year.length == 4 && year.all Char.isDigit) then none
  else
    let rest ← after? '-' (characters.drop 4)
    let afterMonth ← pair? 1 12 rest
    let days := Date.daysInMonth (valueIn 10 year) (valueIn 10 (rest.take 2))
    pair? 1 days (← after? '-' afterMonth)

/-- What follows a fraction of a second, if there is one. -/
def fraction? : List Char → Option (List Char)
  | '.' :: rest =>
    match rest with
    | digit :: others => if digit.isDigit then some (others.dropWhile Char.isDigit) else none
    | [] => none
  | rest => some rest

/-- What follows a time; the seconds may be missing. -/
def time? (characters : List Char) : Option (List Char) := do
  let rest ← pair? 0 59 (← after? ':' (← pair? 0 23 characters))
  match rest with
  | ':' :: seconds => fraction? (← pair? 0 60 seconds)
  | _ => some rest

/-- What follows an offset from universal time, if there is one. -/
def offset? : List Char → Option (List Char)
  | [] => some []
  | sign :: rest =>
    if sign == 'Z' || sign == 'z' then some rest
    else if sign == '+' || sign == '-' then do
      pair? 0 59 (← after? ':' (← pair? 0 23 rest))
    else none

/-- The characters are a date, a time, or both. -/
def isMoment (characters : List Char) : Bool :=
  match date? characters with
  | some [] => true
  | some (divider :: rest) =>
    (divider == 'T' || divider == 't' || divider == ' ') &&
      ((time? rest).bind offset?) == some []
  | none => time? characters == some []

/-! ## All together -/

/-- The value of characters without quotes. -/
def plain? (characters : List Char) : Option Toml :=
  if characters == "true".toList then some (.boolean true)
  else if characters == "false".toList then some (.boolean false)
  else if isMoment characters then some .moment
  else
    match integer? characters with
    | some value => some value
    | none => float? characters

end Toml
end QualityGate
