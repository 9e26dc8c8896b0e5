import Recurrence.Pattern
import Recurrence.Calendar.Moment
import Recurrence.Text.Digit
import Recurrence.Text.Integer

/-! Dates and times written as digits in a fixed order. The year has four digits, and each other
part one digit or two, two where that is a number the part can be. -/

namespace Recurrence.DateText

open Pattern

/-- A digit that is one of these characters. -/
def digitIn (t : String) : Pattern := oneOf t.toList

def anyDigit : Pattern := char isDigit

def yearDigits : Pattern := sequence [anyDigit, anyDigit, anyDigit, anyDigit]

def monthDigits : Pattern :=
  choice [sequence [literal ['1'], digitIn "012"], sequence [literal ['0'], digitIn "123456789"],
    digitIn "123456789"]

def dayDigits : Pattern :=
  choice [sequence [literal ['3'], digitIn "01"], sequence [digitIn "12", anyDigit],
    sequence [literal ['0'], digitIn "123456789"], digitIn "123456789",
    sequence [literal [' '], digitIn "123456789"]]

def hourDigits : Pattern :=
  choice [sequence [literal ['2'], digitIn "0123"], sequence [digitIn "01", anyDigit], anyDigit]

def minuteDigits : Pattern := choice [sequence [digitIn "012345", anyDigit], anyDigit]

def secondDigits : Pattern :=
  choice [sequence [literal ['6'], digitIn "01"], sequence [digitIn "012345", anyDigit], anyDigit]

/-- The number in a group. -/
def numberIn (p : Place) (index : Nat) : Nat :=
  Integer.ofDigits (((p.group? index).getD []).filterMap digitValue?)

/-- Year, month and day between hyphens. -/
def dashedPattern : Pattern :=
  sequence [group 1 yearDigits, literal ['-'], group 2 monthDigits, literal ['-'],
    group 3 dayDigits]

/-- The date in a text that is nothing else. -/
def dashed? (t : Text) : Option Date :=
  match (dashedPattern.outcomes ⟨none, t, []⟩).head? with
  | none => none
  | some p =>
    if p.rest.isEmpty then Date.of? (numberIn p 1) (numberIn p 2) (numberIn p 3) else none

end Recurrence.DateText
