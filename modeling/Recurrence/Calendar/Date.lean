import Recurrence.Fault
import Recurrence.Magnitude
import Recurrence.Calendar.Weekday

/-! Days of the years 1 to 9999 of the Gregorian calendar, counted from 1 January 1. -/

namespace Recurrence

def isLeapYear (y : Nat) : Bool := y % 4 == 0 && (y % 100 != 0 || y % 400 == 0)

def daysInMonth (y : Nat) : Nat → Nat
  | 1 => 31 | 2 => if isLeapYear y then 29 else 28 | 3 => 31 | 4 => 30 | 5 => 31 | 6 => 30
  | 7 => 31 | 8 => 31 | 9 => 30 | 10 => 31 | 11 => 30 | 12 => 31 | _ => 0

/-- The days of a year before its month. -/
def daysBeforeMonth (y m : Nat) : Nat :=
  let leap := if isLeapYear y then 1 else 0
  match m with
  | 0 | 1 => 0 | 2 => 31 | 3 => 59 + leap | 4 => 90 + leap | 5 => 120 + leap
  | 6 => 151 + leap | 7 => 181 + leap | 8 => 212 + leap | 9 => 243 + leap | 10 => 273 + leap
  | 11 => 304 + leap | _ => 334 + leap

/-- The days before a year. -/
def daysBeforeYear (y : Nat) : Nat :=
  (y - 1) * 365 + (y - 1) / 4 - (y - 1) / 100 + (y - 1) / 400

def lastYear : Nat := 9999

/-- The number of 31 December 9999. -/
def lastOrdinal : Nat := 3652059

def IsDate (y m d : Nat) : Prop :=
  1 ≤ y ∧ y ≤ lastYear ∧ 1 ≤ m ∧ m ≤ 12 ∧ 1 ≤ d ∧ d ≤ daysInMonth y m

instance (y m d : Nat) : Decidable (IsDate y m d) := inferInstanceAs (Decidable (_ ∧ _))

structure Date where
  year : Nat
  month : Nat
  day : Nat
  isDate : IsDate year month day
  deriving DecidableEq

namespace Date

def of? (y m d : Nat) : Option Date := if h : IsDate y m d then some ⟨y, m, d, h⟩ else none

/-- The first day of all. -/
def first : Date := ⟨1, 1, 1, by decide⟩

/-- 1 January 1 is day 1. -/
def ordinal (d : Date) : Nat := daysBeforeYear d.year + daysBeforeMonth d.year d.month + d.day

instance : LT Date := ⟨fun a b => a.ordinal < b.ordinal⟩
instance : LE Date := ⟨fun a b => a.ordinal ≤ b.ordinal⟩
instance (a b : Date) : Decidable (a < b) := inferInstanceAs (Decidable (a.ordinal < b.ordinal))
instance (a b : Date) : Decidable (a ≤ b) := inferInstanceAs (Decidable (a.ordinal ≤ b.ordinal))

/-- The earlier of two days. -/
def earlier (a b : Date) : Date := if b < a then b else a

/-- The year that holds the day number `n + 1`, and how many of its days come before that day. -/
def yearOfDays (n : Nat) : Nat × Nat :=
  let r := n % 146097
  let centuries := min (r / 36524) 3
  let s := r - centuries * 36524
  let t := s % 1461
  let years := min (t / 365) 3
  (n / 146097 * 400 + centuries * 100 + s / 1461 * 4 + years + 1, t - years * 365)

/-- The month that holds a day of the year, at or after month `m`, and the day of that month;
`fuel` months are looked through. -/
def monthOfDays (y : Nat) : Nat → Nat → Nat → Nat × Nat
  | 0, m, n => (m, n + 1)
  | fuel + 1, m, n =>
    if n < daysInMonth y m then (m, n + 1) else monthOfDays y fuel (m + 1) (n - daysInMonth y m)

/-- The day with a number, if there is one. -/
def ofOrdinal? (n : Int) : Option Date :=
  if 1 ≤ n ∧ n ≤ lastOrdinal then
    let (y, rest) := yearOfDays (n - 1).toNat
    let (m, d) := monthOfDays y 11 1 rest
    of? y m d
  else none

/-- The day after, if the calendar has one. -/
def next? (d : Date) : Option Date :=
  if d.day < daysInMonth d.year d.month then of? d.year d.month (d.day + 1)
  else if d.month < 12 then of? d.year (d.month + 1) 1
  else of? (d.year + 1) 1 1

def addDays (d : Date) (n : Int) : Except Fault Date :=
  match ofOrdinal? (d.ordinal + n) with
  | some e => .ok e
  | none => .error .dateOutOfRange

/-- The same month and day of another year; 29 February becomes 28 in a common year. -/
def addYears (d : Date) (n : Int) : Except Fault Date :=
  let y := (d.year : Int) + n
  if !fitsWord y then .error .yearBeyondLongWord
  else if halfWordLimit ≤ y then .error .yearBeyondWord
  else if y < -halfWordLimit then .error .yearBelowWord
  else
    match of? y.toNat d.month (min d.day (daysInMonth y.toNat d.month)) with
    | some e => .ok e
    | none => .error (.yearOutOfRange y)

def weekday (d : Date) : Weekday := Weekday.ofIndex (d.ordinal + 6)

/-- Months are numbered through the years. -/
def monthIndex (d : Date) : Nat := d.year * 12 + (d.month - 1)

/-- How many days the first day lies after the second. -/
def daysSince (d e : Date) : Int := (d.ordinal : Int) - e.ordinal

/-- Year, month and day with dashes, the year in four digits. -/
def isoText (d : Date) : Text :=
  decimalPadded 4 d.year ++ '-' :: decimalPadded 2 d.month ++ '-' :: decimalPadded 2 d.day

/-- Year, month and day run together; the year has no zeros in front. -/
def compactText (d : Date) : Text :=
  decimal d.year ++ decimalPadded 2 d.month ++ decimalPadded 2 d.day

/-- Year, month and day with dashes; the year has no zeros in front. -/
def dashedText (d : Date) : Text :=
  decimal d.year ++ '-' :: decimalPadded 2 d.month ++ '-' :: decimalPadded 2 d.day

end Date

end Recurrence
