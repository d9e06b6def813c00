import Toolshed.Text.Piece

/-!
# Timestamps

A moment is written as the date and the time of day in universal time, down to the second.  The
calendar repeats every 400 years, and its years are counted from March on, so that a leap day comes
last.
-/

namespace Toolshed.Timestamp

/-- The year, the month and the day of a day counted from the first one of March of year 0. -/
def dateOf (day : Nat) : Nat × Nat × Nat :=
  let era := day / 146097
  let dayOfEra := day % 146097
  let year := (dayOfEra - dayOfEra / 1460 + dayOfEra / 36524 - dayOfEra / 146096) / 365
  let dayOfYear := dayOfEra - (365 * year + year / 4 - year / 100)
  let month := (5 * dayOfYear + 2) / 153
  let dayOfMonth := dayOfYear - (153 * month + 2) / 5 + 1
  if month < 10 then (400 * era + year, month + 3, dayOfMonth)
  else (400 * era + year + 1, month - 9, dayOfMonth)

/-- The days from the first one of March of year 0 to the first one of the year 1970. -/
def epochDay : Nat := 719468

/-- A number with leading zeros. -/
def padded (width n : Nat) : List Char :=
  let digits := Text.natText n
  List.replicate (width - digits.length) '0' ++ digits

/-- The text of a moment, given in seconds since the start of 1970. -/
def text (seconds : Nat) : String :=
  let (year, month, day) := dateOf (epochDay + seconds / 86400)
  let time := seconds % 86400
  String.ofList (padded 4 year ++ '-' :: padded 2 month ++ '-' :: padded 2 day ++
    'T' :: padded 2 (time / 3600) ++ ':' :: padded 2 (time / 60 % 60) ++
    ':' :: padded 2 (time % 60) ++ ['Z'])

end Toolshed.Timestamp
