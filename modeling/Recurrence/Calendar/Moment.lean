import Recurrence.Calendar.Date

/-! A moment is a day with a time of day and, for some, an offset from universal time. Moments
with and without an offset are never ordered against each other. Durations count microseconds. -/

namespace Recurrence

def microsPerSecond : Nat := 1000000
def microsPerDay : Nat := 86400 * microsPerSecond

structure Duration where
  micros : Int
  deriving DecidableEq

def IsTime (h m s us : Nat) : Prop := h < 24 ∧ m < 60 ∧ s < 60 ∧ us < microsPerSecond

instance (h m s us : Nat) : Decidable (IsTime h m s us) := inferInstanceAs (Decidable (_ ∧ _))

structure TimeOfDay where
  hour : Nat
  minute : Nat
  second : Nat
  micro : Nat
  isTime : IsTime hour minute second micro
  deriving DecidableEq

namespace TimeOfDay

def of? (h m s us : Nat) : Option TimeOfDay :=
  if p : IsTime h m s us then some ⟨h, m, s, us, p⟩ else none

def midnight : TimeOfDay := ⟨0, 0, 0, 0, by decide⟩

/-- The last microsecond of a day. -/
def last : TimeOfDay := ⟨23, 59, 59, 999999, by decide⟩

def micros (t : TimeOfDay) : Nat :=
  ((t.hour * 60 + t.minute) * 60 + t.second) * microsPerSecond + t.micro

/-- The time of day after so many microseconds, whole days left out. -/
def ofMicros (n : Nat) : TimeOfDay :=
  ⟨n / microsPerSecond / 3600 % 24, n / microsPerSecond / 60 % 60, n / microsPerSecond % 60,
    n % microsPerSecond, by unfold IsTime microsPerSecond; omega⟩

/-- The same time of day without the fraction of its second. -/
def wholeSecond (t : TimeOfDay) : TimeOfDay :=
  ⟨t.hour, t.minute, t.second, 0, by have := t.isTime; unfold IsTime microsPerSecond at *; omega⟩

/-- Hours, minutes and seconds with colons. -/
def clockText (t : TimeOfDay) : Text :=
  decimalPadded 2 t.hour ++ ':' :: decimalPadded 2 t.minute ++ ':' :: decimalPadded 2 t.second

/-- Hours and minutes, on the clock of 24 or of 12 hours. -/
def shortText (twelve : Bool) (t : TimeOfDay) : Text :=
  if twelve then
    let hour := if t.hour % 12 = 0 then 12 else t.hour % 12
    decimal hour ++ ':' :: decimalPadded 2 t.minute ++ (if t.hour < 12 then ['a', 'm'] else ['p', 'm'])
  else decimalPadded 2 t.hour ++ ':' :: decimalPadded 2 t.minute

end TimeOfDay

structure Moment where
  date : Date
  time : TimeOfDay
  /-- Seconds east of universal time. -/
  offset : Option Int := none
  deriving DecidableEq

namespace Moment

/-- Microseconds since the eve of the first day, on the moment's own clock. -/
def clockMicros (m : Moment) : Int := (m.date.ordinal * microsPerDay + m.time.micros : Nat)

/-- Microseconds on the clock of universal time; without an offset, on the moment's own clock. -/
def micros (m : Moment) : Int := m.clockMicros - (m.offset.getD 0) * microsPerSecond

/-- The moment a duration later, on the same clock. -/
def add (m : Moment) (d : Duration) : Except Fault Moment :=
  let n := m.clockMicros + d.micros
  match Date.ofOrdinal? (n / microsPerDay) with
  | some date => .ok { m with date, time := TimeOfDay.ofMicros (n % microsPerDay).toNat }
  | none => .error .dateOutOfRange

/-- An offset is less than a day. -/
def hasValidOffset (m : Moment) : Bool := m.offset.all fun n => decide (n.natAbs < 86400)

/-- Two moments can be set against each other on one clock: on their own if they share it, and
else on that of universal time, for which both need an offset of less than a day. -/
def checkComparable (mixed : Fault) (a b : Moment) : Except Fault Unit :=
  if a.offset = b.offset then .ok ()
  else if !(a.hasValidOffset && b.hasValidOffset) then .error .offsetOutOfRange
  else if a.offset.isSome = b.offset.isSome then .ok ()
  else .error mixed

/-- How much later the first moment is than the second. -/
def since (a b : Moment) : Except Fault Duration :=
  (checkComparable .mixedDistance a b).map fun _ => ⟨a.micros - b.micros⟩

/-- Is the first moment not later than the second? -/
def notAfter (a b : Moment) : Except Fault Bool :=
  (checkComparable .mixedOrder a b).map fun _ => decide (a.micros ≤ b.micros)

/-- The same instant; never so for one moment with and one without an offset. -/
def sameInstant (a b : Moment) : Bool :=
  a.offset.isSome == b.offset.isSome && a.micros == b.micros

/-- An offset as hours and minutes, and seconds where it has some. -/
def offsetText (seconds : Int) : Text :=
  let n := seconds.natAbs
  (if seconds < 0 then '-' else '+') :: decimalPadded 2 (n / 3600)
    ++ ':' :: decimalPadded 2 (n / 60 % 60)
    ++ (if n % 60 = 0 then [] else ':' :: decimalPadded 2 (n % 60))

/-- Date, `T`, time, microseconds unless zero, offset if any. -/
def isoText (m : Moment) : Text :=
  m.date.isoText ++ 'T' :: m.time.clockText
    ++ (if m.time.micro = 0 then [] else '.' :: decimalPadded 6 m.time.micro)
    ++ (m.offset.map offsetText).getD []

/-- Date and time to the second run together, as they are stored; the offset is dropped. -/
def compactText (m : Moment) : Text :=
  m.date.compactText ++ 'T' :: decimalPadded 2 m.time.hour ++ decimalPadded 2 m.time.minute
    ++ decimalPadded 2 m.time.second

end Moment

/-- A calendar day, or a moment of it. -/
inductive Stamp
  | day (date : Date)
  | moment (moment : Moment)
  deriving DecidableEq

namespace Stamp

def date : Stamp → Date
  | day d => d
  | moment m => m.date

/-- A day on its own means its first moment. -/
def start : Stamp → Moment
  | day d => ⟨d, TimeOfDay.midnight, none⟩
  | moment m => m

def isoText : Stamp → Text
  | day d => d.isoText
  | moment m => m.isoText

end Stamp

end Recurrence
