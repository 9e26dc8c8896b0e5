import Recurrence.DateText.Digits

/-! Moments as they are stored: the digits of date and time run together around a `T`. A year of
less than four digits takes more digits than were written for it, so it is not read as it was
written. -/

namespace Recurrence.StoredMoment

open Pattern DateText

/-- The six parts, each kept as a group. -/
def pattern : Pattern :=
  sequence [group 1 yearDigits, group 2 monthDigits, group 3 dayDigits, literal ['t'],
    group 4 hourDigits, group 5 minuteDigits, group 6 secondDigits]

/-- The moment in a stored text. -/
def read (t : Text) : Except Fault Moment :=
  match (pattern.outcomes ⟨none, t, []⟩).head? with
  | none => .error (.storedMomentMismatch t)
  | some p =>
    if !p.rest.isEmpty then .error (.storedMomentTail p.rest)
    else
      match Date.of? (numberIn p 1) (numberIn p 2) (numberIn p 3),
          TimeOfDay.of? (numberIn p 4) (numberIn p 5) (numberIn p 6) 0 with
      | some date, some time => .ok { date, time }
      | none, _ =>
        .error (if numberIn p 1 = 0 then .yearOutOfRange 0 else .dayOutOfMonth)
      | _, none => .error .secondOutOfRange

end Recurrence.StoredMoment
