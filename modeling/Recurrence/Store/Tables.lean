import Recurrence.Fault
import Recurrence.Magnitude
import Recurrence.Override.Basic

/-! The two tables of the store: events, and exceptions to recurring events. Ids are never used
twice. An event may belong to a parent event; what belongs to an event goes with it, level by level
down to a limit. -/

namespace Recurrence

/-- An event as it is stored: moments and days as text. -/
structure EventRow where
  id : Int
  title : Text
  start : Text
  finish : Text
  ruleText : Option Text
  endDate : Option Text
  count : Option Int
  parent : Option Int
  created : Text
  modified : Text
  deriving DecidableEq

/-- The exception of an event on a day, with the id of the event that stands in. -/
structure ExceptionRow where
  id : Int
  parent : Int
  date : Text
  kind : OverrideKind
  replacement : Option Int
  deriving DecidableEq

structure Tables where
  /-- In the order of their ids. -/
  events : List EventRow := []
  /-- In the order of their ids. -/
  exceptions : List ExceptionRow := []
  lastEvent : Int := 0
  lastException : Int := 0
  deriving DecidableEq

/-- An integer that fits into 64 bits, as the store keeps them. -/
def storedInteger (n : Int) : Except Fault Int :=
  if fitsWord n then .ok n else .error .integerBeyondStore

/-- An integer that fits, if there is one. -/
def storedInteger? : Option Int → Except Fault (Option Int)
  | none => .ok none
  | some n => (storedInteger n).map some

/-- The id after the last one given. -/
def nextId (last : Int) : Except Fault Int :=
  if fitsWord (last + 1) then .ok (last + 1) else .error (@Fault.storeUnavailable .full)

/-- How many levels of events a deletion goes down from the one it starts with. -/
def deletionLevels : Nat := 1000

/-- The tables that a deletion leaves, and whether it deleted all that it was to delete. -/
structure Deletion where
  left : Tables
  isWhole : Bool

namespace Tables

def event? (t : Tables) (id : Int) : Option EventRow := t.events.find? fun e => e.id == id

def hasEvent (t : Tables) (id : Int) : Bool := (t.event? id).isSome

/-- Adds an event under the next id; its parent must be there, or be the event itself. -/
def insertEvent (t : Tables) (row : Int → Except Fault EventRow) : Except Fault (Tables × Int) := do
  let id ← nextId t.lastEvent
  let e ← row id
  if e.parent.all fun p => p == id || t.hasEvent p then
    .ok ({ t with events := t.events ++ [e], lastEvent := id }, id)
  else .error .parentMissing

/-- Changes the event with an id. -/
def updateEvent (t : Tables) (id : Int) (change : EventRow → EventRow) : Tables :=
  { t with events := t.events.map fun e => if e.id == id then change e else e }

def deleteExceptions (t : Tables) (test : ExceptionRow → Bool) : Tables :=
  { t with exceptions := t.exceptions.filter fun x => !test x }

/-- Deletes the events with these ids one after another, but for those that are gone by then, until
one is not deleted whole. -/
def deleteEach (delete : Tables → Int → Deletion) : Tables → List Int → Deletion
  | t, [] => ⟨t, true⟩
  | t, id :: ids =>
    if t.hasEvent id then
      let first := delete t id
      if first.isWhole then deleteEach delete first.left ids else first
    else deleteEach delete t ids

/-- Deletes an event and its exceptions, and in the same way each event that belongs to it. Below the
last level an event is deleted alone, and the deletion ends there. -/
def deleteDown : (levels : Nat) → Tables → Int → Deletion
  | 0, t, id => ⟨{ t with events := t.events.filter fun e => e.id != id }, false⟩
  | levels + 1, t, id =>
    let t := { t with events := t.events.filter fun e => e.id != id }
    let t := t.deleteExceptions fun x => x.parent == id
    deleteEach (deleteDown levels) t
      ((t.events.filter fun e => e.parent == some id).map EventRow.id)

/-- The deletion of the events that pass a test, with the events and exceptions that belong to them. -/
def deletion (t : Tables) (test : EventRow → Bool) : Deletion :=
  deleteEach (deleteDown deletionLevels) t ((t.events.filter test).map EventRow.id)

def exceptionOn? (t : Tables) (parent : Int) (date : Text) : Option ExceptionRow :=
  t.exceptions.find? fun x => x.parent == parent && x.date == date

/-- Adds an exception, or replaces the kind and the stand-in of the one of its day; an id is used
up either way. -/
def putException (t : Tables) (parent : Int) (date : Text) (kind : OverrideKind)
    (replacement : Option Int) : Except Fault Tables := do
  let id ← nextId t.lastException
  if !t.hasEvent parent then .error .parentMissing
  else if (t.exceptionOn? parent date).isSome then
    .ok { t with
      exceptions := t.exceptions.map fun x =>
        if x.parent == parent && x.date == date then { x with kind, replacement } else x
      lastException := id }
  else
    .ok { t with
      exceptions := t.exceptions ++ [{ id, parent, date, kind, replacement }]
      lastException := id }

/-- The exceptions of an event, by the text of their days. -/
def exceptionsOf (t : Tables) (parent : Int) : List ExceptionRow :=
  (t.exceptions.filter fun x => x.parent == parent).mergeSort fun a b => a.date.notAfter b.date

end Tables

end Recurrence
