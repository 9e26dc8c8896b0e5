import Recurrence.Rule.Basic

/-! What may be wrong with a rule before it is stored. -/

namespace Recurrence

inductive RuleProblem
  | frequencyMissing
  | intervalNotPositive
  | countNotPositive
  | endsBeforeToday
  | monthDayOutOfRange
  | monthOutOfRange
  | weekdayUnknown
  deriving DecidableEq

def RuleProblem.message : RuleProblem → Text
  | frequencyMissing => "frequency is required".toList
  | intervalNotPositive => "interval must be a positive integer".toList
  | countNotPositive => "count must be a positive integer".toList
  | endsBeforeToday => "until date cannot be earlier than today".toList
  | monthDayOutOfRange => "month days must be between 1 and 31".toList
  | monthOutOfRange => "months must be between 1 and 12".toList
  | weekdayUnknown =>
    "weekdays must be from ".toList ++ Text.joined ", ".toList (Weekday.all.map Weekday.code)

namespace Rule

/-- Does the rule end before a day? A moment is not comparable with a day. -/
def endsBefore (r : Rule) (today : Date) : Except Fault Bool :=
  match r.ends with
  | none => .ok false
  | some (.day d) => .ok (decide (d < today))
  | some (.moment _) => .error .momentAgainstDay

/-- The problems of a rule on a day, in a fixed order. -/
def problems (r : Rule) (today : Date) : Except Fault (List RuleProblem) :=
  (r.endsBefore today).map fun late =>
    (if r.frequency.isNone then [.frequencyMissing] else [])
      ++ (if r.interval.any (· < 1) then [.intervalNotPositive] else [])
      ++ (if r.count.any (· < 1) then [.countNotPositive] else [])
      ++ (if late then [.endsBeforeToday] else [])
      ++ (if r.byMonthDay.any fun d => !(decide (1 ≤ d) && decide (d ≤ 31)) then
          [.monthDayOutOfRange] else [])
      ++ (if r.byMonth.any fun m => !(decide (1 ≤ m) && decide (m ≤ 12)) then
          [.monthOutOfRange] else [])
      ++ (if r.byDay.any fun c => (Weekday.ofCode? c).isNone then [.weekdayUnknown] else [])

/-- A rule is stored only if this passes. -/
def check (r : Rule) (today : Date) : Except Fault Unit :=
  match r.problems today with
  | .error fault => .error fault
  | .ok [] => .ok ()
  | .ok problems => .error (.invalidRule (problems.map RuleProblem.message))

end Rule

end Recurrence
