/-! The Gregorian calendar, for years of any sign. Days are numbered from the first day of the year 0. -/

namespace Lookout.Time

def isLeapYear (y : Int) : Bool := y % 4 == 0 && (y % 100 != 0 || y % 400 == 0)

/-- The number of the first day of a year. -/
def yearStart (y : Int) : Int := 365 * y + (y + 3) / 4 - (y + 99) / 100 + (y + 399) / 400

/-- The lengths of the months of a year. -/
def monthLengths (y : Int) : List Nat :=
  [31, if isLeapYear y then 29 else 28, 31, 30, 31, 30, 31, 31, 30, 31, 30, 31]

/-- A day of the calendar. -/
structure Date where
  year : Int
  month : Nat
  day : Nat
  deriving Repr, DecidableEq

namespace Date

/-- The length of the month of a date. -/
def monthLength (d : Date) : Nat := (monthLengths d.year).getD (d.month - 1) 0

/-- The date is in the calendar. -/
def isValid (d : Date) : Bool := 1 ≤ d.month && d.month ≤ 12 && 1 ≤ d.day && d.day ≤ d.monthLength

/-- The number of days in the months of the year before that of a date. -/
def daysBeforeMonth (d : Date) : Nat := ((monthLengths d.year).take (d.month - 1)).foldr (· + ·) 0

/-- The number of the day. -/
def toDay (d : Date) : Int := yearStart d.year + d.daysBeforeMonth + (d.day - 1 : Nat)

/-- The month that holds the day `n` days behind the start of the first month, and the day in it. The
    months left to pass are numbered from `month` on. -/
def splitMonths (month : Nat) : List Nat → Nat → Nat × Nat
  | [], n => (month, n + 1)
  | length :: rest, n => if n < length then (month, n + 1) else splitMonths (month + 1) rest (n - length)

/-- The year that holds a day. -/
def yearOfDay (n : Int) : Int :=
  let guess := 400 * n / 146097
  if n < yearStart guess then guess - 1 else if yearStart (guess + 1) ≤ n then guess + 1 else guess

/-- The date of a day. -/
def ofDay (n : Int) : Date :=
  let year := yearOfDay n
  let (month, day) := splitMonths 1 (monthLengths year) (n - yearStart year).toNat
  ⟨year, month, day⟩

/-- The day is the last of its month. -/
def endsMonth (d : Date) : Bool := d.day == d.monthLength

end Date
end Lookout.Time
