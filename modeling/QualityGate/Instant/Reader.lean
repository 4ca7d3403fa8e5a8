import QualityGate.Instant.Basic
import QualityGate.Word

/-!
# Reading instants

Two notations are read.  The strict one has fixed widths and needs a zone with a colon; the relaxed
one allows blanks between the parts, short numbers, signed years and `UTC` as a zone.  Days without
a time of day are read as their first instant.
-/

namespace QualityGate
namespace Instant

/-- Why a text is not an instant. -/
inductive Fault where
  | outOfRange
  | invalid
  | tooShort
  | tooLong
  | impossible
deriving Repr, DecidableEq

namespace Fault

/-- A fault in words. -/
def message : Fault → String
  | .outOfRange => "input is out of range"
  | .invalid => "input contains invalid characters"
  | .tooShort => "premature end of input"
  | .tooLong => "trailing input"
  | .impossible => "no possible date and time matching input"

end Fault

/-- A reader of the characters at the front of a text. -/
abbrev Scan (α : Type) := StateT (List Char) (Except Fault) α

namespace Scan

/-- Remove the blanks at the front. -/
def blanks : Scan Unit :=
  modify (Text.dropStart Text.isBlank)

/-- The largest number that is kept exactly. -/
def limit : Nat := Word.bound 63 - 1

/-- A number of at least one digit and at most `width` digits, if a width is given. -/
def number (least : Nat) (width? : Option Nat) : Scan Nat := do
  let characters ← get
  let window := match width? with
    | some width => characters.take width
    | none => characters
  let digits := window.takeWhile Char.isDigit
  if digits.length < least then
    throw (if (String.ofList characters).utf8ByteSize < least then .tooShort else .invalid)
  else
    let value := Text.decimalValue digits
    if limit < value then throw .outOfRange
    else
      set (characters.drop digits.length)
      return value

/-- One given character. -/
def literal (expected : Char) : Scan Unit := do
  match ← get with
  | [] => throw .tooShort
  | character :: rest => if character == expected then set rest else throw .invalid

/-- The value lies between two bounds. -/
def within (low high value : Nat) : Scan Nat :=
  if low ≤ value && value ≤ high then pure value else throw .outOfRange

/-- The fraction of a second in nanoseconds, if a point follows; digits after the ninth are
dropped. -/
def fraction : Scan Nat := do
  match ← get with
  | '.' :: rest =>
    set rest
    let before ← get
    let value ← number 1 (some 9)
    let count := before.length - (← get).length
    modify fun characters => characters.dropWhile Char.isDigit
    return value * Nat.pow 10 (9 - count)
  | _ => return 0

/-- The letter or blank between a day and a time of day. -/
def divider : Scan Unit := do
  match ← get with
  | [] => throw .tooShort
  | character :: rest =>
    if character == 'T' || character == 't' || character == ' ' then set rest else throw .invalid

/-- Two digits; the value of the first is at most `highest`. -/
def twoDigits (highest : Nat) : Scan Nat := do
  match ← get with
  | first :: second :: rest =>
    if first.isDigit && second.isDigit then
      let high := first.toNat - '0'.toNat
      if highest < high then throw .outOfRange
      else
        set rest
        return high * 10 + (second.toNat - '0'.toNat)
    else throw .invalid
  | [only] => throw (if only.utf8Size < 2 then .tooShort else .invalid)
  | [] => throw .tooShort

/-- The seconds by which a zone is ahead; `separator` reads what stands between its hours and its
minutes. -/
def zone (separator : Scan Unit) : Scan Int := do
  match ← get with
  | [] => throw .tooShort
  | sign :: rest =>
    set rest
    if sign == 'Z' || sign == 'z' then return 0
    else if sign == '+' || sign == '-' || sign == '\u2212' then
      let hours ← twoDigits 9
      separator
      let minutes ← twoDigits 5
      let seconds : Int := hours * 3600 + minutes * 60
      return if sign == '+' then seconds else -seconds
    else throw .invalid

/-- A year without its bounds: up to four digits, or any number of digits after a sign. -/
def signedYear : Scan Int := do
  match ← get with
  | '-' :: rest =>
    set rest
    return -(← number 1 none : Nat)
  | '+' :: rest =>
    set rest
    return (← number 1 none : Nat)
  | _ => return (← number 1 (some 4) : Nat)

/-- A year of 32 bits, after blanks. -/
def year : Scan Int := do
  blanks
  let value ← signedYear
  if Word.spans 31 31 value then return value else throw .outOfRange

/-- A number of one or two digits between two bounds, after blanks. -/
def short (low high : Nat) : Scan Nat := do
  blanks
  within low high (← number 1 (some 2))

/-- A number of exactly two digits between two bounds. -/
def pair (low high : Nat) : Scan Nat := do
  within low high (← number 2 (some 2))

/-- The end of the text. -/
def finish : Scan Unit := do
  if !(← get).isEmpty then throw .tooLong

end Scan

/-- A day that exists. -/
def validDate (date : Date) : Scan Date :=
  if date.isValid then pure date else throw .outOfRange

/-- Put the parts of a local time together.  The second 60 is a leap second. -/
def ofParts (date : Date) (hour minute second nanosecond : Nat) (offset : Int) : Scan Instant := do
  let date ← validDate date
  let leap := second == 60
  let localTime : Instant :=
    { date
      second := hour * 3600 + minute * 60 + (if leap then 59 else second)
      nanosecond := nanosecond + (if leap then 1000000000 else 0) }
  if offset.natAbs < 86400 then
    let instant := localTime.ofLocal offset
    if instant.date.isValid then return instant else throw .impossible
  else throw .outOfRange

/-- The strict notation. -/
def strict : Scan Instant := do
  let year ← Scan.number 4 (some 4)
  Scan.literal '-'
  let month ← Scan.pair 1 12
  Scan.literal '-'
  let day ← Scan.pair 1 31
  Scan.divider
  let hour ← Scan.pair 0 23
  Scan.literal ':'
  let minute ← Scan.pair 0 59
  Scan.literal ':'
  let second ← Scan.pair 0 60
  let nanosecond ← Scan.fraction
  let offset ← Scan.zone (Scan.literal ':')
  Scan.finish
  ofParts ⟨year, month, day⟩ hour minute second nanosecond offset

/-- The separators of a relaxed zone: any number of colons and blanks. -/
def looseSeparator : Scan Unit :=
  modify fun characters =>
    characters.dropWhile fun character => character == ':' || Text.isBlank character

/-- The word `UTC` in any case, or a zone. -/
def looseZone : Scan Int := do
  let characters ← get
  if (characters.take 3).map Char.toLower == ['u', 't', 'c'] then
    set (characters.drop 3)
    return 0
  else Scan.zone looseSeparator

/-- The relaxed notation. -/
def relaxed : Scan Instant := do
  let year ← Scan.year
  Scan.blanks
  Scan.literal '-'
  let month ← Scan.short 1 12
  Scan.blanks
  Scan.literal '-'
  let day ← Scan.short 1 31
  Scan.divider
  let hour ← Scan.short 0 23
  Scan.blanks
  Scan.literal ':'
  let minute ← Scan.short 0 59
  Scan.blanks
  Scan.literal ':'
  let second ← Scan.short 0 60
  let nanosecond ← Scan.fraction
  Scan.blanks
  let offset ← looseZone
  Scan.blanks
  Scan.finish
  ofParts ⟨year, month, day⟩ hour minute second nanosecond offset

/-- A day alone, as its first instant. -/
def plainDay : Scan Instant := do
  let year ← Scan.year
  Scan.literal '-'
  let month ← Scan.short 1 12
  Scan.literal '-'
  let day ← Scan.short 1 31
  Scan.finish
  let date ← validDate ⟨year, month, day⟩
  return ⟨date, 0, 0⟩

/-- Read a whole text. -/
def runScan (scan : Scan Instant) (text : String) : Except Fault Instant :=
  (scan text.toList).map Prod.fst

/-- Read the relaxed notation. -/
def parse (text : String) : Except Fault Instant :=
  runScan relaxed text

/-- Read the strict notation, or a day alone, between blanks. -/
def parseExpiry (text : String) : Option Instant :=
  let trimmed := Text.trim text
  match runScan strict trimmed with
  | .ok instant => some instant
  | .error _ => (runScan plainDay trimmed).toOption

end Instant
end QualityGate
