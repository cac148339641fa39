/-!
# Calendar

Dates of the proleptic Gregorian calendar from the number of days since the start of 1970.
-/

namespace ColumnVeil.Calendar

/-- A day of the calendar. -/
structure Date where
  year : Nat
  month : Nat
  day : Nat
deriving DecidableEq, Repr

/-- A year of 366 days. -/
def isLeapYear (year : Nat) : Bool :=
  year % 4 == 0 && (year % 100 != 0 || year % 400 == 0)

/-- The number of days of a year. -/
def daysOfYear (year : Nat) : Nat :=
  if isLeapYear year then 366 else 365

/-- The lengths of the months of a year. -/
def monthLengths (year : Nat) : List Nat :=
  [31, if isLeapYear year then 29 else 28, 31, 30, 31, 30, 31, 31, 30, 31, 30, 31]

/-- The days of 400 years, after which the calendar repeats. -/
def daysOfCycle : Nat := 146097

/-- The year and the day of the year, counted from zero, that lie `days` after the start of
`year`; `fuel` bounds the number of whole years in between. -/
def yearAfter : (fuel : Nat) → (year days : Nat) → Nat × Nat
  | 0, year, days => (year, days)
  | fuel + 1, year, days =>
    if days < daysOfYear year then (year, days)
    else yearAfter fuel (year + 1) (days - daysOfYear year)

/-- The month, counted from one, and the day of the month of a day of the year. -/
def monthAfter : (lengths : List Nat) → (month days : Nat) → Nat × Nat
  | [], month, days => (month, days + 1)
  | length :: rest, month, days =>
    if days < length then (month, days + 1) else monthAfter rest (month + 1) (days - length)

/-- The date that lies a number of days after the start of 1970. -/
def Date.ofDays (days : Nat) : Date :=
  let (year, dayOfYear) := yearAfter 400 (1970 + 400 * (days / daysOfCycle)) (days % daysOfCycle)
  let (month, day) := monthAfter (monthLengths year) 1 dayOfYear
  { year, month, day }

end ColumnVeil.Calendar
