import Recurrence.Series.Membership
import Recurrence.Override.Set

/-! The occurrences of a series. The days are walked from the anchor to the last day the bounds
allow, until the limit of occurrences is used up; a cancelled day uses up its share. -/

namespace Recurrence

/-- An occurrence with its own start and end. One that an override flags keeps its slot. -/
structure Occurrence where
  start : Moment
  finish : Moment
  override : Option Override := none
  deriving DecidableEq

/-- What bounds an expansion besides the rule. -/
structure Bounds where
  queryEnd : Option Stamp := none
  maxInstances : Int := 365
  horizonYears : Int := 2

/-- A rule with the event it repeats. -/
structure Series where
  start : Moment
  finish : Moment
  rule : Rule

namespace Series

def anchor (s : Series) : Date := s.start.date

/-- The number of occurrences to look for: the rule's count or the ceiling, whichever is less. -/
def limit (s : Series) (b : Bounds) : Nat :=
  match s.rule.count? with
  | some n => (min n b.maxInstances).toNat
  | none => b.maxInstances.toNat

/-- The last day looked at: the horizon, the rule's end or the query's, whichever is first. -/
def lastDay (s : Series) (b : Bounds) : Except Fault Date :=
  (s.anchor.addYears b.horizonYears).map fun horizon =>
    let last := (s.rule.ends.map fun e => horizon.earlier e.date).getD horizon
    (b.queryEnd.map fun e => last.earlier e.date).getD last

/-- The start on a day, at the time of day of the first start. -/
def slotStart (s : Series) (day : Date) : Moment := { s.start with date := day }

/-- The occurrence on a day of the series; none if it is cancelled. -/
def occurrence? (s : Series) (duration : Duration) (overrides : OverrideSet) (day : Date) :
    Except Fault (Option Occurrence) :=
  let override := overrides.lookup? day
  if override.any Override.isCancelled then .ok none
  else
    ((s.slotStart day).add duration).map fun finish =>
      some { start := s.slotStart day, finish, override }

/-- Walks `days` days from a day on with `left` occurrences to go, in front of those found,
which are held backwards. -/
def walk (s : Series) (duration : Duration) (overrides : OverrideSet) :
    (days : Nat) → Date → (left : Nat) → List Occurrence → Except Fault (List Occurrence)
  | 0, _, _, found => .ok found.reverse
  | _ + 1, _, 0, found => .ok found.reverse
  | days + 1, day, left + 1, found =>
    if s.rule.occursOn s.anchor day then
      match s.occurrence? duration overrides day with
      | .error fault => .error fault
      | .ok occurrence =>
        match day.next? with
        | none => .error .dateOutOfRange
        | some next => s.walk duration overrides days next left (occurrence.toList ++ found)
    else
      match day.next? with
      | none => .error .dateOutOfRange
      | some next => s.walk duration overrides days next (left + 1) found

/-- The occurrences of a series within bounds, in order. -/
def expand (s : Series) (overrides : OverrideSet) (b : Bounds) :
    Except Fault (List Occurrence) := do
  let duration ← s.finish.since s.start
  let last ← s.lastDay b
  s.walk duration overrides (last.ordinal + 1 - s.anchor.ordinal) s.anchor (s.limit b) []

end Series

/-- Does an occurrence start in a window, both ends included? -/
def Occurrence.startsWithin (o : Occurrence) (first last : Moment) : Except Fault Bool := do
  if ← first.notAfter o.start then o.start.notAfter last else .ok false

/-- The occurrences that start in a window, behind those found, which are held backwards. -/
def occurrencesWithinFrom (first last : Moment) :
    (found : List Occurrence) → List Occurrence → Except Fault (List Occurrence)
  | found, [] => .ok found.reverse
  | found, o :: os =>
    match o.startsWithin first last with
    | .error fault => .error fault
    | .ok here => occurrencesWithinFrom first last (if here then o :: found else found) os

/-- The occurrences that start in a window. -/
def occurrencesWithin (first last : Moment) (os : List Occurrence) :
    Except Fault (List Occurrence) :=
  occurrencesWithinFrom first last [] os

end Recurrence
