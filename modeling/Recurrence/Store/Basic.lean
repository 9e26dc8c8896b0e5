import Recurrence.Store.Tables
import Recurrence.DateText.Reading

/-! The store: the tables as they were last committed, the tables as they are now, and the notes
for the journal. An action that fails keeps what it has changed until then, and so does a deletion
that goes too deep; the next commit makes that lasting, and opening the store again drops it. -/

namespace Recurrence

/-- A message for the journal. -/
structure StoreNote where
  now : Moment
  caller : Text
  message : Text

structure Store where
  committed : Tables := {}
  tables : Tables := {}
  /-- The latest first. -/
  notes : List StoreNote := []

/-- What actions on the store depend on besides it. -/
structure Conditions where
  now : Moment
  /-- The year that years of two digits lie around. -/
  base : DateText.BaseYear
  queryLimit : Int := 200
  horizonYears : Int := 2

def Conditions.today (c : Conditions) : Date := c.now.date

/-- Where dates are read from. -/
def Conditions.standpoint (c : Conditions) : DateText.Standpoint := ⟨c.today, c.base⟩

/-- An action changes the store whether it succeeds or fails. -/
abbrev StoreAction (α : Type) := ExceptT Fault (StateM Store) α

namespace Store

/-- Opens the store again: what was not committed is gone. -/
def reopen (s : Store) : Store := { s with tables := s.committed }

/-- A new empty store that goes on with the notes. -/
def reset (s : Store) : Store := { notes := s.notes }

def tablesNow : StoreAction Tables := return (← get).tables

def setTables (t : Tables) : StoreAction Unit := modify fun s => { s with tables := t }

/-- Makes lasting what has been changed. -/
def commit : StoreAction Unit := modify fun s => { s with committed := s.tables }

/-- Deletes the events that pass a test, with what belongs to them. What has been deleted where the
deletion goes too deep stays deleted. -/
def deleteEvents (test : EventRow → Bool) : StoreAction Unit := do
  let deletion := (← tablesNow).deletion test
  setTables deletion.left
  if deletion.isWhole then return () else throw (@Fault.storeUnavailable .tooDeep)

/-- Adds a note; the caller is named with the store. The home of the journal is taken to be found
where the notes are written down. -/
def note (c : Conditions) (caller message : Text) : StoreAction Unit :=
  modify fun s =>
    { s with
      notes := { now := c.now, caller := "DatabaseManager.".toList ++ caller, message } :: s.notes }

end Store

end Recurrence
