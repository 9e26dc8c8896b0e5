import Recurrence.Store.Basic
import Recurrence.Store.StoredMoment
import Recurrence.Rule.Text
import Recurrence.Rule.Validity

/-! Events of the store: adding them, reading them back, and changing their rules. -/

namespace Recurrence

/-- An event as it is read back. -/
structure Event where
  id : Int
  title : Text
  start : Moment
  finish : Moment
  ruleText : Option Text := none
  endDate : Option Date := none
  count : Option Int := none
  parent : Option Int := none

namespace Event

/-- The rule of the event. Its text drops the end where there is a count; the end date keeps it. -/
def rule? (here : DateText.Standpoint) (e : Event) : Except Fault (Option Rule) :=
  match e.ruleText with
  | none => .ok none
  | some text =>
    (Rule.read? here text).map fun rule? => rule?.map fun r =>
      if r.ends.isSome then r else { r with ends := e.endDate.map Stamp.day }

/-- The day in the column of the end, which may be empty. -/
def endDay? (here : DateText.Standpoint) : Option Text → Except Fault (Option Date)
  | none => .ok none
  | some text => DateText.day? here text

def ofRow (here : DateText.Standpoint) (row : EventRow) : Except Fault Event := do
  let start ← StoredMoment.read row.start
  let finish ← StoredMoment.read row.finish
  let endDate ← endDay? here row.endDate
  .ok {
    id := row.id, title := row.title, start, finish, ruleText := row.ruleText, endDate
    count := row.count, parent := row.parent }

/-- Another title, or that of the event where there is none. -/
def titleOr (e : Event) (title : Option Text) : Text :=
  (title.filter fun t => !t.isEmpty).getD e.title

/-- The slot of the event on a day: its time of day there, and as long as it lasts. -/
def slot (e : Event) (day : Date) : Except Fault (Moment × Moment) := do
  let start := { e.start with date := day }
  let duration ← e.finish.since e.start
  let finish ← start.add duration
  .ok (start, finish)

end Event

/-- The columns of a rule: its text, its end and its count. -/
structure RuleColumns where
  text : Option Text := none
  endDate : Option Text := none
  count : Option Int := none

def RuleColumns.ofRule : Option Rule → Except Fault RuleColumns
  | none => .ok {}
  | some r =>
    r.write.map fun text =>
      { text := some text, endDate := r.ends.map fun s => s.date.compactText, count := r.count }

namespace Store

/-- A failure of the tables while an event is added, which is noted. -/
def noteFailedAdd (c : Conditions) (title : Option Text) (fault : Fault) : StoreAction Unit :=
  note c "add_event".toList
    ("Error adding event ".toList ++ (title.map Text.quoted).getD "None".toList ++ ": ".toList
      ++ fault.message)

/-- The row of an event under a new id. -/
def newRow (c : Conditions) (title : Option Text) (start finish : Moment) (columns : RuleColumns)
    (parent : Option Int) (id : Int) : Except Fault EventRow :=
  match title with
  | none => .error .titleMissing
  | some name => .ok {
    id, title := name, start := start.compactText, finish := finish.compactText
    ruleText := columns.text, endDate := columns.endDate, count := columns.count, parent
    created := c.now.compactText, modified := c.now.compactText }

/-- Adds an event with or without a rule and a parent; the answer is its id. -/
def addEvent (c : Conditions) (title : Option Text) (start finish : Moment) (rule : Option Rule)
    (parent : Option Int) : StoreAction Int := do
  let columns ← RuleColumns.ofRule rule
  let count ← storedInteger? columns.count
  let parent ← storedInteger? parent
  match (← tablesNow).insertEvent (newRow c title start finish { columns with count } parent) with
  | .error fault =>
    noteFailedAdd c title fault
    throw fault
  | .ok (tables, id) =>
    setTables tables
    commit
    return id

/-- Adds a recurring event whose rule is in order. -/
def createSeries (c : Conditions) (title : Option Text) (start finish : Moment) (rule : Rule)
    (today : Option Date) : StoreAction Int := do
  rule.check (today.getD c.today)
  let id ← addEvent c title start finish (some rule) none
  let text ← rule.write
  note c "create_recurring_event".toList
    ("created series ".toList ++ decimalInt id ++ ' ' :: (title.map Text.quoted).getD "None".toList
      ++ " with ".toList ++ text)
  return id

def getEvent (c : Conditions) (id : Int) : StoreAction Event := do
  let key ← storedInteger id
  match (← tablesNow).event? key with
  | none => throw (.eventNotFound id)
  | some row => Event.ofRow c.standpoint row

/-- Gives an event another rule, or none. -/
def updateRule (c : Conditions) (id : Int) (rule : Option Rule) : StoreAction Unit := do
  let _ ← getEvent c id
  let columns ← RuleColumns.ofRule rule
  let count ← storedInteger? columns.count
  let tables ← tablesNow
  setTables (tables.updateEvent id fun e =>
    { e with
      ruleText := columns.text, endDate := columns.endDate, count, modified := c.now.compactText })
  commit

end Store

end Recurrence
