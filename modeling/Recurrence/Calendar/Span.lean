import Recurrence.Calendar.Moment
import Recurrence.Rounding

/-! Durations in words, durations made of units, and the span from one moment to another as
tables show it. -/

namespace Recurrence

namespace Duration

/-- The whole seconds of a number of microseconds, after the seconds have been rounded to 53
binary digits; only beyond 2^33 seconds can the rounding reach the next second. -/
def wholeSeconds (micros : Nat) : Nat :=
  let seconds := micros / microsPerSecond
  if seconds = 0 then 0
  else
    let scale := Nat.pow 2 (52 - seconds.log2)
    roundedQuotient (micros * scale) microsPerSecond / scale

def unitText (n : Nat) (unit : Char) : Text := if n = 0 then [] else decimal n ++ [unit]

/-- Days, hours and minutes; seconds are dropped and less than a minute is `0m`. -/
def words (d : Duration) : Text :=
  let seconds := wholeSeconds d.micros.toNat
  let text := unitText (seconds / 86400) 'd' ++ unitText (seconds % 86400 / 3600) 'h'
    ++ unitText (seconds % 3600 / 60) 'm'
  if text.isEmpty then ['0', 'm'] else text

/-- A duration of so many microseconds, of less than a thousand million days. -/
def ofMicros (micros : Int) : Except Fault Duration :=
  let days := micros / microsPerDay
  if halfWordLimit ≤ days ∨ days < -halfWordLimit then .error .durationBeyondWord
  else if 999999999 < days ∨ days < -999999999 then .error (.durationOutOfRange days)
  else .ok ⟨micros⟩

def ofUnits (days hours minutes seconds micros : Int) : Except Fault Duration :=
  ofMicros ((((days * 24 + hours) * 60 + minutes) * 60 + seconds) * microsPerSecond + micros)

end Duration

/-- The time of day a span starts and, unless it is empty, where it ends. -/
def spanText (twelve : Bool) (start : Moment) (end? : Option Moment) : Text :=
  match end? with
  | none => start.time.shortText twelve
  | some finish =>
    if finish.sameInstant start then start.time.shortText twelve
    else if finish.date ≠ start.date then
      start.time.shortText twelve ++ '-' :: finish.date.dashedText
        ++ ' ' :: finish.time.shortText twelve
    else start.time.shortText twelve ++ '-' :: finish.time.shortText twelve

end Recurrence
