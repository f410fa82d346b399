namespace FindQuery.Calendar

def isLeap (year : Nat) : Bool := year % 4 = 0 && (year % 100 ≠ 0 || year % 400 = 0)

/-- The number of days of a month; a number that names no month has none. -/
def daysInMonth (year month : Nat) : Nat :=
  match month with
  | 1 | 3 | 5 | 7 | 8 | 10 | 12 => 31
  | 4 | 6 | 9 | 11 => 30
  | 2 => if isLeap year then 29 else 28
  | _ => 0

/-- The last year of which dates are read. -/
def maxYear : Nat := 9999

structure Date where
  year : Nat
  month : Nat
  day : Nat
  deriving DecidableEq

/-- A date that exists, in years 1 to 9999. -/
def Date.IsValid (d : Date) : Prop :=
  1 ≤ d.year ∧ d.year ≤ maxYear ∧ 1 ≤ d.day ∧ d.day ≤ daysInMonth d.year d.month

instance (d : Date) : Decidable d.IsValid :=
  inferInstanceAs (Decidable (_ ∧ _ ∧ _ ∧ _))

/-- The number of days before the first day of a year. -/
def daysBeforeYear (year : Nat) : Nat :=
  let y := year - 1
  y * 365 + y / 4 - y / 100 + y / 400

/-- The number of days of a year before the first day of a month. -/
def daysBeforeMonth (year : Nat) : Nat → Nat
  | 0 => 0
  | month + 1 => daysBeforeMonth year month + daysInMonth year month

def Date.toDayNumber (d : Date) : Nat :=
  daysBeforeYear d.year + daysBeforeMonth d.year d.month + (d.day - 1)

/-- The year of a day number, and the number of the day within it. Four hundred years have 146097
days, a hundred years without a leap day at their end 36524, four years with one 1461. -/
def yearOfDay (n : Nat) : Nat × Nat :=
  let inEra := n % 146097
  let century := min (inEra / 36524) 3
  let inCentury := inEra - century * 36524
  let inFour := inCentury % 1461
  let single := min (inFour / 365) 3
  (n / 146097 * 400 + century * 100 + inCentury / 1461 * 4 + single + 1, inFour - single * 365)

/-- The month that holds a day of the year, searched among `count` months from `month` on, and the
day of that month. -/
def monthOfDay (year : Nat) : (count month day : Nat) → Nat × Nat
  | 0, month, day => (month, day + 1)
  | count + 1, month, day =>
    if day < daysInMonth year month then (month, day + 1)
    else monthOfDay year count (month + 1) (day - daysInMonth year month)

def Date.ofDayNumber (n : Nat) : Date :=
  let year := yearOfDay n
  let month := monthOfDay year.1 11 1 year.2
  ⟨year.1, month.1, month.2⟩

end FindQuery.Calendar
