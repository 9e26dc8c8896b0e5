import Recurrence.Store.Exception
import Recurrence.Series.Expansion

/-! What is done with the recurring events of the store: fetching occurrences, overriding single
days, deleting a series, and splitting it in two. -/

namespace Recurrence.Store

/-- The occurrences of an event that start in a window, and its rule; an event without a rule has
none. -/
def getOccurrences (c : Conditions) (id : Int) (first last : Moment) :
    StoreAction (List Occurrence × Option Rule) := do
  let event ← getEvent c id
  match ← event.rule? c.standpoint with
  | none => return ([], none)
  | some rule =>
    let overrides ← getExceptions c id
    let all ← Series.expand { start := event.start, finish := event.finish, rule }
      (OverrideSet.ofList overrides)
      { queryEnd := some (.moment last), maxInstances := c.queryLimit,
        horizonYears := c.horizonYears }
    let inside ← occurrencesWithin first last all
    let text ← rule.write
    note c "get_instances".toList
      ("series ".toList ++ decimalInt id ++ ' ' :: text ++ ": ".toList ++ decimal all.length
        ++ " generated, ".toList ++ decimal inside.length ++ " in window".toList)
    return (inside, some rule)

/-- Puts an event of its own in the place of one occurrence; the answer is its id. What is not
given is taken from the occurrence. -/
def overrideOccurrence (c : Conditions) (id : Int) (day : Date) (kind : OverrideKind)
    (title : Option Text) (start finish : Option Moment) : StoreAction Int := do
  let event ← getEvent c id
  let (slotStart, slotFinish) ← event.slot day
  let start := start.getD slotStart
  let finish ←
    match finish with
    | some m => pure m
    | none => do
      let duration ← slotFinish.since slotStart
      start.add duration
  let child ← addEvent c (some (event.titleOr title)) start finish none (some id)
  putException c id { date := day, kind, replacement := some (decimalInt child) }
  return child

def modifyOccurrence (c : Conditions) (id : Int) (day : Date) (title : Option Text)
    (start finish : Option Moment) : StoreAction Int :=
  overrideOccurrence c id day .modified title start finish

def moveOccurrence (c : Conditions) (id : Int) (day : Date) (start finish : Option Moment) :
    StoreAction Int :=
  overrideOccurrence c id day .moved none start finish

def cancelOccurrence (c : Conditions) (id : Int) (day : Date) : StoreAction Unit :=
  putException c id { date := day, kind := .cancelled }

/-- Removes the exception of a day of an event that is there. -/
def restoreOccurrence (c : Conditions) (id : Int) (day : Date) : StoreAction Bool := do
  let _ ← getEvent c id
  removeException id day

/-- Deletes an event with its exceptions and all that belongs to it. -/
def deleteSeries (c : Conditions) (id : Int) : StoreAction Unit := do
  let _ ← getEvent c id
  setTables ((← tablesNow).deleteExceptions fun x => x.parent == id)
  deleteEvents fun e => e.parent == some id
  deleteEvents fun e => e.id == id
  commit
  note c "delete_series".toList ("deleted series ".toList ++ decimalInt id)

/-- Ends a series on the day before a day at the latest, and starts a new one on that day with
another rule, or with the old rule without its count. The answer is the new id. -/
def splitSeries (c : Conditions) (id : Int) (day : Date) (rule : Option Rule)
    (title : Option Text) (today : Option Date) : StoreAction Int := do
  let event ← getEvent c id
  match ← event.rule? c.standpoint with
  | none => throw (.invalidRule ["event ".toList ++ decimalInt id ++ " is not recurring".toList])
  | some old =>
    let new := rule.getD { old with count := none }
    new.check (today.getD c.today)
    let before ← day.addDays (-1)
    updateRule c id (some (old.endedBy before))
    let (start, finish) ← event.slot day
    let child ← addEvent c (some (event.titleOr title)) start finish (some new) none
    note c "split_series".toList
      ("split series ".toList ++ decimalInt id ++ " at ".toList ++ day.isoText
        ++ ": new series ".toList ++ decimalInt child)
    return child

end Recurrence.Store
