import Recurrence.Calendar.Moment
import Recurrence.Text.Case

/-! Recurrence rules: how often a series repeats, which days it keeps, and where it ends. -/

namespace Recurrence

inductive Frequency
  | daily | weekly | monthly | yearly
  deriving DecidableEq

namespace Frequency

def all : List Frequency := [daily, weekly, monthly, yearly]

/-- The name in rule texts. -/
def name : Frequency → Text
  | daily => "DAILY".toList
  | weekly => "WEEKLY".toList
  | monthly => "MONTHLY".toList
  | yearly => "YEARLY".toList

/-- The frequency with a name, in any case. -/
def ofName? (t : Text) : Option Frequency := all.find? fun f => f.name == t.upper

/-- The frequency with a name, in any case; the fault shows the name in capitals. -/
def read (t : Text) : Except Fault Frequency :=
  match ofName? t with
  | some f => .ok f
  | none => .error (.unknownFrequency t.upper)

end Frequency

/-- An empty filter filters nothing. Weekday codes are kept as they were given. A rule without a
frequency has no occurrence, and an interval that is missing or zero counts as one. -/
structure Rule where
  frequency : Option Frequency
  interval : Option Int := some 1
  byDay : List Text := []
  byMonthDay : List Int := []
  byMonth : List Int := []
  /-- The number of occurrences, unless it is zero. -/
  count : Option Int := none
  /-- The last day on which the rule may recur. -/
  ends : Option Stamp := none
  deriving DecidableEq

namespace Rule

/-- The distance between occurrences in units of the frequency. -/
def step (r : Rule) : Int :=
  match r.interval with
  | none => 1
  | some n => if n = 0 then 1 else n

/-- The number of occurrences, if the rule sets one. -/
def count? (r : Rule) : Option Int := r.count.filter (· ≠ 0)

/-- The rule with its end on a day at the latest. -/
def endedBy (r : Rule) (last : Date) : Rule :=
  { r with ends := some (.day ((r.ends.map fun e => e.date.earlier last).getD last)) }

/-- The rule that is needed for one of its parts. -/
def needed (part : Text) : Option Rule → Except Fault Rule
  | some r => .ok r
  | none => .error (.ruleMissing part)

end Rule

end Recurrence
