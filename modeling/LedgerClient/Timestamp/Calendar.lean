/-!
# The calendar

Days counted from the first of January 1970 and dates of the Gregorian calendar, extended to all
years. Years are taken to begin in March, so that the leap day is the last day of its year: then a
date is a position in nested cycles of 400, 100, 4 and 1 years and of months of fixed lengths.
-/

namespace LedgerClient

/-- A date of the Gregorian calendar. -/
structure Date where
  /-- The year, zero being the one before the year one. -/
  year : Int
  /-- The month, from 1 to 12. -/
  month : Nat
  /-- The day of the month, from 1 on. -/
  day : Nat
  deriving DecidableEq, Repr

namespace Date

/-- Whether a year has a leap day. -/
def isLeap (year : Int) : Bool :=
  year % 4 = 0 && (year % 100 ≠ 0 || year % 400 = 0)

/-- The number of days of a month. -/
def daysInMonth (year : Int) (month : Nat) : Nat :=
  match month with
  | 2 => if isLeap year then 29 else 28
  | 4 | 6 | 9 | 11 => 30
  | _ => 31

/-- The days from the first of March of the year zero to the first of January 1970. -/
def epochOffset : Int := 719468

/-- The number of days from the first of January 1970 to a date. -/
def toDays (d : Date) : Int :=
  let year := if d.month ≤ 2 then d.year - 1 else d.year
  let month : Int := (d.month + 9) % 12
  365 * year + year / 4 - year / 100 + year / 400 + (153 * month + 2) / 5 + (d.day - 1) -
    epochOffset

/-- The date that is so many days after the first of January 1970. -/
def ofDays (days : Int) : Date :=
  let n := days + epochOffset
  let era := n / 146097
  let inEra := n % 146097
  let century := min (inEra / 36524) 3
  let inCentury := inEra - 36524 * century
  let quad := inCentury / 1461
  let inQuad := inCentury % 1461
  let single := min (inQuad / 365) 3
  let inYear := inQuad - 365 * single
  let month := (5 * inYear + 2) / 153
  let year := 400 * era + 100 * century + 4 * quad + single
  let day := inYear - (153 * month + 2) / 5 + 1
  if month < 10 then ⟨year, month.toNat + 3, day.toNat⟩
  else ⟨year + 1, month.toNat - 9, day.toNat⟩

end Date

end LedgerClient
