import QualityGate.Text.Basic

/-!
# Instants

An instant is a day of the proleptic Gregorian calendar with a time of day in universal time.  A
leap second is the last second of its minute with a thousand million nanoseconds added.
-/

namespace QualityGate

/-- A day of the calendar. -/
structure Date where
  year : Int
  month : Nat
  day : Nat
deriving Repr, DecidableEq, Inhabited

namespace Date

/-- A year with a 29th of February. -/
def isLeapYear (year : Int) : Bool :=
  year % 4 == 0 && (year % 100 != 0 || year % 400 == 0)

/-- The number of days of a month; zero if there is no such month. -/
def daysInMonth (year : Int) (month : Nat) : Nat :=
  match month with
  | 1 => 31
  | 2 => if isLeapYear year then 29 else 28
  | 3 => 31
  | 4 => 30
  | 5 => 31
  | 6 => 30
  | 7 => 31
  | 8 => 31
  | 9 => 30
  | 10 => 31
  | 11 => 30
  | 12 => 31
  | _ => 0

/-- The years that are supported. -/
def isSupportedYear (year : Int) : Bool :=
  -262143 ≤ year && year ≤ 262142

/-- The day exists in the calendar. -/
def isValid (date : Date) : Bool :=
  isSupportedYear date.year && 1 ≤ date.day && date.day ≤ daysInMonth date.year date.month

/-- The following day. -/
def next (date : Date) : Date :=
  if date.day < daysInMonth date.year date.month then { date with day := date.day + 1 }
  else if date.month < 12 then ⟨date.year, date.month + 1, 1⟩
  else ⟨date.year + 1, 1, 1⟩

/-- The preceding day. -/
def previous (date : Date) : Date :=
  if 1 < date.day then { date with day := date.day - 1 }
  else if 1 < date.month then
    ⟨date.year, date.month - 1, daysInMonth date.year (date.month - 1)⟩
  else ⟨date.year - 1, 12, 31⟩

/-- The days of a year before a month begins. -/
def daysBeforeMonth (year : Int) (month : Nat) : Nat :=
  ((List.range (month - 1)).map fun index => daysInMonth year (index + 1)).foldr (· + ·) 0

/-- The number of the day, counted from the first day of the year zero. -/
def number (date : Date) : Int :=
  let past := date.year - 1
  date.year * 365 + (past.fdiv 4 - past.fdiv 100 + past.fdiv 400) +
    daysBeforeMonth date.year date.month + date.day

/-- Walk from a month towards the one that holds a day of the year; the fuel bounds the steps. -/
def inYear (year : Int) : Nat → Nat → Nat → Date
  | 0, month, day => ⟨year, month, day⟩
  | fuel + 1, month, day =>
    let length := daysInMonth year month
    if day ≤ length then ⟨year, month, day⟩ else inYear year fuel (month + 1) (day - length)

/-- The day with a given number of days since the first of January 1970. -/
def ofDaysSince1970 (days : Int) : Date :=
  let target := days + number ⟨1970, 1, 1⟩
  let guess := target.fdiv 366 - 1
  let years := (List.range 1500).map fun (index : Nat) => guess + (index : Int)
  let year := (years.takeWhile fun year => number ⟨year, 1, 1⟩ ≤ target).getLastD guess
  inYear year 12 1 (target - number ⟨year, 1, 1⟩ + 1).toNat

/-- The order of the calendar. -/
def compare (first second : Date) : Ordering :=
  (Ord.compare first.year second.year).then
    ((Ord.compare first.month second.month).then (Ord.compare first.day second.day))

end Date

/-- A point in time: a day, the second of that day, and nanoseconds. -/
structure Instant where
  date : Date
  second : Nat
  nanosecond : Nat
deriving Repr, DecidableEq, Inhabited

namespace Instant

/-- The order of time. -/
def compare (first second : Instant) : Ordering :=
  (first.date.compare second.date).then
    ((Ord.compare first.second second.second).then (Ord.compare first.nanosecond second.nanosecond))

/-- The first instant is not after the second. -/
def notAfter (first second : Instant) : Bool :=
  (compare first second).isLE

/-- The leap seconds between two times of day, as far as the instants show them. -/
def leapSecondsSince (later earlier : Instant) : Int :=
  match Ord.compare later.second earlier.second with
  | .gt => if 1000000000 ≤ earlier.nanosecond then 1 else 0
  | .eq => 0
  | .lt => if 1000000000 ≤ later.nanosecond then -1 else 0

/-- Nanoseconds from the earlier instant to the later one. -/
def nanosecondsSince (later earlier : Instant) : Int :=
  let seconds :=
    (later.date.number - earlier.date.number) * 86400 + ((later.second : Int) - earlier.second) +
      later.leapSecondsSince earlier
  seconds * 1000000000 + ((later.nanosecond : Int) - earlier.nanosecond)

/-- The instant a number of milliseconds after the start of 1970. -/
def ofMilliseconds (milliseconds : Nat) : Instant :=
  { date := Date.ofDaysSince1970 (milliseconds / 86400000 : Nat)
    second := milliseconds / 1000 % 86400
    nanosecond := milliseconds % 1000 * 1000000 }

/-! ## Writing -/

/-- A year with four digits, and with a sign outside the years 0 to 9999. -/
def yearText (year : Int) : String :=
  if 0 ≤ year && year ≤ 9999 then Text.paddedDecimal 4 year.natAbs
  else (if year < 0 then "-" else "+") ++ Text.paddedDecimal 4 year.natAbs

/-- A fraction of a second with three, six or nine digits, as few as keep its value. -/
def fractionText (nanosecond : Nat) : String :=
  if nanosecond == 0 then ""
  else if nanosecond % 1000000 == 0 then "." ++ Text.paddedDecimal 3 (nanosecond / 1000000)
  else if nanosecond % 1000 == 0 then "." ++ Text.paddedDecimal 6 (nanosecond / 1000)
  else "." ++ Text.paddedDecimal 9 nanosecond

/-- Date and time without a zone. -/
def localText (instant : Instant) : String :=
  let leap := 1000000000 ≤ instant.nanosecond
  let second := instant.second % 60 + (if leap then 1 else 0)
  let nanosecond := if leap then instant.nanosecond - 1000000000 else instant.nanosecond
  yearText instant.date.year ++ "-" ++ Text.paddedDecimal 2 instant.date.month ++ "-" ++
    Text.paddedDecimal 2 instant.date.day ++ "T" ++
    Text.paddedDecimal 2 (instant.second / 3600) ++ ":" ++
    Text.paddedDecimal 2 (instant.second / 60 % 60) ++ ":" ++ Text.paddedDecimal 2 second ++
    fractionText nanosecond

/-- An instant in writing, with the zone `+00:00`. -/
def offsetText (instant : Instant) : String :=
  instant.localText ++ "+00:00"

/-- An instant in writing, with the zone `Z`. -/
def zuluText (instant : Instant) : String :=
  instant.localText ++ "Z"

/-! ## Shifting -/

/-- The instant in universal time of a local time that is `offset` seconds ahead; less than a day
either way. -/
def ofLocal (localTime : Instant) (offset : Int) : Instant :=
  let shifted := (localTime.second : Int) - offset
  if shifted < 0 then
    { localTime with date := localTime.date.previous, second := (shifted + 86400).toNat }
  else if 86400 ≤ shifted then
    { localTime with date := localTime.date.next, second := (shifted - 86400).toNat }
  else { localTime with second := shifted.toNat }

end Instant
end QualityGate
