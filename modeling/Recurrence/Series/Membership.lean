import Recurrence.Rule.Basic

/-! Which days belong to a series. Only calendar days count: a series is a rule and the day it
is anchored on. -/

namespace Recurrence.Rule

/-- The day is a whole number of steps after the anchor, in the unit of the frequency, and the
right day of that unit. Weeks are counted from the anchor's day. -/
def keepsStep (r : Rule) (anchor day : Date) : Bool :=
  match r.frequency with
  | none => false
  | some .daily => day.daysSince anchor % r.step == 0
  | some .weekly =>
    day.daysSince anchor / 7 % r.step == 0
      && (!r.byDay.isEmpty || day.weekday == anchor.weekday)
  | some .monthly =>
    ((day.monthIndex : Int) - anchor.monthIndex) % r.step == 0
      && (if r.byMonthDay.isEmpty then day.day == anchor.day
        else r.byMonthDay.contains (day.day : Int))
  | some .yearly =>
    ((day.year : Int) - anchor.year) % r.step == 0
      && day.month == anchor.month && day.day == anchor.day

def keepsWeekday (r : Rule) (day : Date) : Bool :=
  r.byDay.isEmpty || r.byDay.contains day.weekday.code

/-- The months filter the days of yearly rules only. -/
def keepsMonth (r : Rule) (day : Date) : Bool :=
  r.frequency != some .yearly || r.byMonth.isEmpty || r.byMonth.contains (day.month : Int)

/-- Is the day an occurrence of the series anchored on a day? -/
def occursOn (r : Rule) (anchor day : Date) : Bool :=
  decide (anchor ≤ day) && r.keepsStep anchor day && r.keepsWeekday day && r.keepsMonth day

/-- The same question where a rule may be missing; a day before the anchor needs none. -/
def occursOn? (rule : Option Rule) (anchor day : Date) : Except Fault Bool :=
  if day < anchor then .ok false
  else (needed "interval".toList rule).map fun r => r.occursOn anchor day

end Recurrence.Rule
