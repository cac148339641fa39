import ColumnVeil.Calendar

/-!
# Timestamps

Moments are counted in microseconds since the start of 1970, in universal time, and written
as date and time of day with six decimals.  Years beyond 9999 carry a plus sign, and moments
beyond the last year of the calendar are written as their count.
-/

namespace ColumnVeil.Audit.Timestamp

/-- A number in at least `width` decimal digits. -/
def padded (width value : Nat) : String :=
  let digits := Nat.toDigits 10 value
  String.ofList (List.replicate (width - digits.length) '0' ++ digits)

/-- The first second beyond the last year of the calendar, 262142. -/
def endOfCalendar : Nat := 8210266876800

/-- The text of a moment. -/
def text (microseconds : Nat) : String :=
  let seconds := microseconds / 1000000
  if endOfCalendar ≤ seconds then "invalid-timestamp-" ++ padded 1 microseconds
  else
    let date := Calendar.Date.ofDays (seconds / 86400)
    let sign := if 9999 < date.year then "+" else ""
    sign ++ padded 4 date.year ++ "-" ++ padded 2 date.month ++ "-" ++ padded 2 date.day ++ "T"
      ++ padded 2 (seconds / 3600 % 24) ++ ":" ++ padded 2 (seconds / 60 % 60) ++ ":"
      ++ padded 2 (seconds % 60) ++ "." ++ padded 6 (microseconds % 1000000) ++ "Z"

end ColumnVeil.Audit.Timestamp
