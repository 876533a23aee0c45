import EdgePlane.Text.Blank
import EdgePlane.Text.Decimal

/-!
# Instants

A moment in universal time, written in the form of RFC 3339. What is written is always in universal
time, with no fraction or one of three, six or nine digits. What is read may have any offset; blanks
may stand in front of every number and separator, and numbers may have fewer digits than usual.
-/

namespace EdgePlane

open Text

/-- A moment: the day counted from 1970-01-01, the second of the day, and the nanoseconds in that
second, which run to twice a second in a leap second. -/
structure Instant where
  day : Int
  second : Nat
  nanosecond : Nat
  deriving Repr, DecidableEq, Inhabited

/-- A date of the Gregorian calendar, extended to all years. -/
structure CalendarDate where
  year : Int
  month : Nat
  day : Nat
  deriving Repr, DecidableEq

namespace CalendarDate

/-- Whether a year has a day more. -/
def isLeap (year : Int) : Bool := year % 4 = 0 && (year % 100 ≠ 0 || year % 400 = 0)

/-- The number of days in a month. -/
def monthLength (year : Int) (month : Nat) : Nat :=
  if month = 2 then (if isLeap year then 29 else 28)
  else if month = 4 ∨ month = 6 ∨ month = 9 ∨ month = 11 then 30
  else 31

/-- The first and the last year that a date can have. -/
def yearRange : Int × Int := (-262143, 262142)

/-- Whether the month and the day exist, in a year of the range. -/
def isValid (d : CalendarDate) : Bool :=
  yearRange.1 ≤ d.year && d.year ≤ yearRange.2 && 1 ≤ d.month && d.month ≤ 12 && 1 ≤ d.day &&
    d.day ≤ monthLength d.year d.month

/-- The day count of a date. The year is taken to begin in March, so that the leap day is its last. -/
def toDay (d : CalendarDate) : Int :=
  let year := if d.month ≤ 2 then d.year - 1 else d.year
  let era := Int.fdiv year 400
  let yearOfEra := year - era * 400
  let monthIndex : Int := if d.month ≤ 2 then d.month + 9 else d.month - 3
  let dayOfYear := (153 * monthIndex + 2) / 5 + d.day - 1
  let dayOfEra := yearOfEra * 365 + yearOfEra / 4 - yearOfEra / 100 + dayOfYear
  era * 146097 + dayOfEra - 719468

/-- The date of a day. -/
def ofDay (day : Int) : CalendarDate :=
  let shifted := day + 719468
  let era := Int.fdiv shifted 146097
  let dayOfEra := shifted - era * 146097
  let yearOfEra := (dayOfEra - dayOfEra / 1460 + dayOfEra / 36524 - dayOfEra / 146096) / 365
  let dayOfYear := dayOfEra - (365 * yearOfEra + yearOfEra / 4 - yearOfEra / 100)
  let monthIndex := (5 * dayOfYear + 2) / 153
  let month := if monthIndex < 10 then monthIndex + 3 else monthIndex - 9
  let year := yearOfEra + era * 400
  ⟨if month ≤ 2 then year + 1 else year, month.toNat, (dayOfYear - (153 * monthIndex + 2) / 5 + 1).toNat⟩

/-- A year as it is written. -/
def yearText (year : Int) : String :=
  if 0 ≤ year ∧ year ≤ 9999 then decimalPadded 4 year.toNat
  else (if year < 0 then "-" else "+") ++ decimalPadded 4 year.natAbs

end CalendarDate

namespace Instant

/-- The fraction of a second in the fewest of no, three, six or nine digits that lose nothing. -/
def fraction (nanosecond : Nat) : String :=
  if nanosecond = 0 then ""
  else if nanosecond % 1000000 = 0 then "." ++ decimalPadded 3 (nanosecond / 1000000)
  else if nanosecond % 1000 = 0 then "." ++ decimalPadded 6 (nanosecond / 1000)
  else "." ++ decimalPadded 9 nanosecond

/-- The instant as text. A leap second is written as second 60. -/
def render (t : Instant) : String :=
  let date := CalendarDate.ofDay t.day
  let second := t.second % 60 + t.nanosecond / 1000000000
  CalendarDate.yearText date.year ++ "-" ++ decimalPadded 2 date.month ++ "-" ++ decimalPadded 2 date.day
    ++ "T" ++ decimalPadded 2 (t.second / 3600) ++ ":" ++ decimalPadded 2 (t.second / 60 % 60) ++ ":"
    ++ decimalPadded 2 second ++ fraction (t.nanosecond % 1000000000) ++ "Z"

/-- The instant without the fraction of its second. -/
def wholeSeconds (t : Instant) : Instant :=
  { t with nanosecond := t.nanosecond / 1000000000 * 1000000000 }

/-- The digits at the front of a text, at most `limit` of them, with their value and their number. -/
def leadingDigits (limit : Nat) (acc count : Nat) : List Char → Nat × Nat × List Char
  | [] => (acc, count, [])
  | c :: rest =>
    match limit, digitValue? c with
    | limit + 1, some d => leadingDigits limit (acc * 10 + d) (count + 1) rest
    | _, _ => (acc, count, c :: rest)

/-- Reads a number of one to `limit` digits behind blanks. -/
def readNumber? (limit : Nat) (cs : List Char) : Option (Nat × List Char) :=
  match leadingDigits limit 0 0 (cs.dropWhile isBlank) with
  | (_, 0, _) => none
  | (value, _, rest) => some (value, rest)

/-- Reads a year: up to four digits, or a sign and any number of digits. -/
def readYear? (cs : List Char) : Option (Int × List Char) :=
  match cs.dropWhile isBlank with
  | '-' :: rest => (signed rest).map fun r => (-Int.ofNat r.1, r.2)
  | '+' :: rest => (signed rest).map fun r => (Int.ofNat r.1, r.2)
  | rest => (readNumber? 4 rest).map fun r => (Int.ofNat r.1, r.2)
where
  signed (rest : List Char) : Option (Nat × List Char) :=
    match leadingDigits rest.length 0 0 rest with
    | (_, 0, _) => none
    | (value, _, rest) => some (value, rest)

/-- Passes over blanks and one separator. -/
def skip? (separator : Char) (cs : List Char) : Option (List Char) :=
  match cs.dropWhile isBlank with
  | c :: rest => if c = separator then some rest else none
  | [] => none

/-- Reads a fraction if there is one, to nine digits, and passes over further digits. -/
def readFraction? : List Char → Option (Nat × List Char)
  | '.' :: rest =>
    match leadingDigits 9 0 0 rest with
    | (_, 0, _) => none
    | (value, count, rest) =>
      some (value * Nat.pow 10 (9 - count), rest.dropWhile fun c => (digitValue? c).isSome)
  | rest => some (0, rest)

/-- The distance to universal time in seconds, and what follows it. -/
def readOffset? (cs : List Char) : Option (Int × List Char) :=
  match cs with
  | 'Z' :: rest => some (0, rest)
  | 'z' :: rest => some (0, rest)
  | '+' :: rest => (distance rest).map fun r => (Int.ofNat r.1, r.2)
  | '-' :: rest => (distance rest).map fun r => (-Int.ofNat r.1, r.2)
  | '\u2212' :: rest => (distance rest).map fun r => (-Int.ofNat r.1, r.2)
  | u :: t :: c :: rest =>
    if [u, t, c].map Char.toLower = ['u', 't', 'c'] then some (0, rest) else none
  | _ => none
where
  distance (cs : List Char) : Option (Nat × List Char) :=
    match cs with
    | h :: h' :: rest => do
      let hours := (← digitValue? h) * 10 + (← digitValue? h')
      match rest.dropWhile fun c => c = ':' || isBlank c with
      | m :: m' :: rest =>
        let minutes := (← digitValue? m) * 10 + (← digitValue? m')
        if minutes < 60 ∧ hours < 24 then some (hours * 3600 + minutes * 60, rest) else none
      | _ => none
    | _ => none

/-- The date at the front of a text. -/
def readDate? (cs : List Char) : Option (CalendarDate × List Char) := do
  let (year, cs) ← readYear? cs
  let (month, cs) ← readNumber? 2 (← skip? '-' cs)
  let (day, cs) ← readNumber? 2 (← skip? '-' cs)
  let date : CalendarDate := ⟨year, month, day⟩
  if date.isValid then some (date, cs) else none

/-- The second of the day and the nanosecond of the time at the front of a text. -/
def readTime? (cs : List Char) : Option (Nat × Nat × List Char) := do
  let (hour, cs) ← readNumber? 2 cs
  let (minute, cs) ← readNumber? 2 (← skip? ':' cs)
  let (second, cs) ← readNumber? 2 (← skip? ':' cs)
  let (nanosecond, cs) ← readFraction? cs
  if hour < 24 ∧ minute < 60 ∧ second ≤ 60 then
    if second = 60 then some (hour * 3600 + minute * 60 + 59, nanosecond + 1000000000, cs)
    else some (hour * 3600 + minute * 60 + second, nanosecond, cs)
  else none

/-- The instant `offset` seconds before the given local time, if its year is in range. -/
def atOffset? (date : CalendarDate) (second nanosecond : Nat) (offset : Int) : Option Instant :=
  let total := (second : Int) - offset
  let day := date.toDay + Int.fdiv total 86400
  let year := (CalendarDate.ofDay day).year
  if CalendarDate.yearRange.1 ≤ year ∧ year ≤ CalendarDate.yearRange.2 then
    some ⟨day, (Int.fmod total 86400).toNat, nanosecond⟩
  else none

/-- The instant that a text stands for. -/
def parse? (s : String) : Option Instant := do
  let (date, cs) ← readDate? s.toList
  let cs ← match cs with
    | c :: rest => if c = 'T' ∨ c = 't' ∨ c = ' ' then some rest else none
    | [] => none
  let (second, nanosecond, cs) ← readTime? cs
  let (offset, cs) ← readOffset? (cs.dropWhile isBlank)
  if cs.all isBlank then atOffset? date second nanosecond offset else none

end Instant

end EdgePlane
