import FindQuery.Number.Decimal
import FindQuery.Number.Numeral
import FindQuery.Time.Calendar

namespace FindQuery

def Calendar.millisPerDay : Nat := 86400000

/-- The days of years 1 to 9999. -/
def Calendar.dayCount : Nat := Calendar.daysBeforeYear (Calendar.maxYear + 1)

/-- A moment, in milliseconds of UTC since the start of year 1. -/
structure Instant where
  millis : Nat
  lt_end : millis < Calendar.dayCount * Calendar.millisPerDay
  deriving DecidableEq

namespace Instant

/-- The instant at a number of milliseconds, unless it lies outside years 1 to 9999. -/
def ofMillis? (n : Int) : Option Instant :=
  if h : 0 ≤ n ∧ n < (Calendar.dayCount * Calendar.millisPerDay : Nat) then
    some ⟨n.toNat, by omega⟩
  else none

/-- A date and a time of day as written, with the offset of the local clock from UTC. -/
structure Written where
  date : Calendar.Date
  hour : Nat
  minute : Nat
  second : Nat
  milli : Nat
  /-- Minutes that the local clock is ahead of UTC. -/
  offset : Int
  deriving DecidableEq

/-- The date exists, the time of day exists, and the offset is less than a day. -/
def Written.IsValid (w : Written) : Prop :=
  w.date.IsValid ∧ w.hour ≤ 23 ∧ w.minute ≤ 59 ∧ w.second ≤ 59 ∧ w.offset.natAbs < 24 * 60

instance (w : Written) : Decidable w.IsValid :=
  inferInstanceAs (Decidable (_ ∧ _ ∧ _ ∧ _ ∧ _))

/-- Milliseconds of UTC since the start of year 1. -/
def Written.toMillis (w : Written) : Int :=
  (w.date.toDayNumber * Calendar.millisPerDay : Nat) +
    (((w.hour * 60 + w.minute) * 60 + w.second) * 1000 + w.milli : Nat) - w.offset * 60000

/-- The instant that is written, if it exists. -/
def Written.toInstant? (w : Written) : Option Instant :=
  if w.IsValid then ofMillis? w.toMillis else none

def readDigits? : Nat → Text → Option (List Nat × Text)
  | 0, t => some ([], t)
  | _ + 1, [] => none
  | n + 1, c :: r =>
    match Text.digitValue? c with
    | some d => (readDigits? n r).map (Prod.map (d :: ·) id)
    | none => none

def readNumber? (width : Nat) (t : Text) : Option (Nat × Text) :=
  (readDigits? width t).map (Prod.map Numeral.ofDigits id)

/-- Reads a character and then a number of exactly so many digits. -/
def readAfter? (mark : Char) (width : Nat) : Text → Option (Nat × Text)
  | [] => none
  | c :: r => if c = mark then readNumber? width r else none

def readDate? (t : Text) : Option (Calendar.Date × Text) := do
  let (year, t) ← readNumber? 4 t
  let (month, t) ← readAfter? '-' 2 t
  let (day, t) ← readAfter? '-' 2 t
  return (⟨year, month, day⟩, t)

/-- The milliseconds of a fraction: its first three digits, missing ones being zero. -/
def millisOf (ds : List Nat) : Nat := Numeral.ofDigits ((ds ++ [0, 0, 0]).take 3)

/-- Reads a fraction of a second, if a point or a comma comes next; it needs a digit. -/
def readFraction? : Text → Option (Nat × Text)
  | [] => some (0, [])
  | c :: r =>
    if c = '.' ∨ c = ',' then
      match Numeral.readDigits r with
      | ([], _) => none
      | (ds, r) => some (millisOf ds, r)
    else some (0, c :: r)

/-- Reads seconds and their fraction, if a colon comes next. -/
def readSeconds? (t : Text) : Option ((Nat × Nat) × Text) :=
  if t.head? = some ':' then do
    let (second, t) ← readAfter? ':' 2 t
    let (milli, t) ← readFraction? t
    return ((second, milli), t)
  else some ((0, 0), t)

/-- Reads the minutes of an offset that fill the rest of a text, with or without a colon. -/
def readOffsetMinutes? : Text → Option Nat
  | [] => some 0
  | c :: r =>
    match readNumber? 2 (if c = ':' then r else c :: r) with
    | some (minutes, []) => some minutes
    | _ => none

/-- Reads the offset that fills the rest of a text: nothing, `Z`, or a sign with hours and perhaps
minutes. -/
def readOffset? : Text → Option Int
  | [] => some 0
  | ['Z'] => some 0
  | c :: r =>
    if c = '+' ∨ c = '-' then do
      let (hours, r) ← readNumber? 2 r
      let minutes ← readOffsetMinutes? r
      return Numeral.signed (c = '-') (hours * 60 + minutes)
    else none

/-- Takes apart a date, or a date and a time of day. -/
def readWritten? (t : Text) : Option Written := do
  let (date, t) ← readDate? t
  if t = [] then return ⟨date, 0, 0, 0, 0, 0⟩
  let (hour, t) ← readAfter? 'T' 2 t
  let (minute, t) ← readAfter? ':' 2 t
  let ((second, milli), t) ← readSeconds? t
  let offset ← readOffset? t
  return ⟨date, hour, minute, second, milli, offset⟩

/-- Reads a written instant; one final newline is allowed. -/
def ofText? (t : Text) : Option Instant :=
  (readWritten? t.dropFinalNewline).bind Written.toInstant?

/-- Date and time of day in UTC. -/
def toWritten (x : Instant) : Written :=
  let inDay := x.millis % Calendar.millisPerDay
  { date := Calendar.Date.ofDayNumber (x.millis / Calendar.millisPerDay)
    hour := inDay / 3600000
    minute := inDay / 60000 % 60
    second := inDay / 1000 % 60
    milli := inDay % 1000
    offset := 0 }

def padded (width n : Nat) : Text := Text.zeroPadded width (Text.ofNat n)

/-- The written form in UTC with milliseconds, `2024-01-15T10:30:00.000Z`. -/
def toText (x : Instant) : Text :=
  let w := x.toWritten
  padded 4 w.date.year ++ '-' :: padded 2 w.date.month ++ '-' :: padded 2 w.date.day ++
    'T' :: padded 2 w.hour ++ ':' :: padded 2 w.minute ++ ':' :: padded 2 w.second ++
    '.' :: padded 3 w.milli ++ ['Z']

end Instant

end FindQuery
