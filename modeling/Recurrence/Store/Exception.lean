import Recurrence.Store.Event
import Recurrence.Override.Set

/-! Exceptions of stored events. Where an exception is replaced or removed, the event that stood
in for its day goes too. -/

namespace Recurrence

namespace ExceptionRow

/-- The override a row tells. -/
def toOverride (here : DateText.Standpoint) (x : ExceptionRow) : Except Fault Override :=
  Override.ofRecord here {
    exceptionDate := .text x.date
    exceptionType := .text x.kind.name
    modifiedEventId := (x.replacement.map RecordValue.integer).getD .nothing }

end ExceptionRow

namespace Store

/-- The exceptions of an event, by their days. -/
def getExceptions (c : Conditions) (id : Int) : StoreAction (List Override) := do
  let key ← storedInteger id
  let rows := (← tablesNow).exceptionsOf key
  (rows.mapM (ExceptionRow.toOverride c.standpoint) : Except Fault (List Override))

/-- Deletes the event that stands in for a day, unless it is the one to keep. -/
def dropReplaced (id : Int) (day : Date) (keep : Option Text) : StoreAction Unit := do
  let key ← storedInteger id
  let tables ← tablesNow
  match (tables.exceptionOn? key day.compactText).bind ExceptionRow.replacement with
  | none => return ()
  | some old =>
    if keep = some (decimalInt old) then return ()
    else deleteEvents fun e => e.id == old && e.parent == some key

/-- Creates or replaces the exception of a day. -/
def putException (c : Conditions) (id : Int) (o : Override) : StoreAction Unit := do
  let _ ← getEvent c id
  dropReplaced id o.date o.replacement
  let replacement ←
    match o.replacement with
    | none => pure none
    | some t => (Integer.read t).map some
  let replacement ← storedInteger? replacement
  let tables ← (← tablesNow).putException id o.date.compactText o.kind replacement
  setTables tables
  commit
  note c "put_exception".toList
    ("series ".toList ++ decimalInt id ++ ": ".toList ++ o.kind.name ++ " on ".toList
      ++ o.date.isoText)

/-- Removes the exception of a day; the answer tells whether there was one. -/
def removeException (id : Int) (day : Date) : StoreAction Bool := do
  dropReplaced id day none
  let tables ← tablesNow
  let here := fun x : ExceptionRow => x.parent == id && x.date == day.compactText
  setTables (tables.deleteExceptions here)
  commit
  return tables.exceptions.any here

end Store

end Recurrence
