import Recurrence.Proofs.Fault
import Recurrence.Proofs.Store.Run
import Recurrence.Proofs.Store.Tables
import Recurrence.Store.Series

/-! What calls come to, as functions of the tables they find. A call of one write either commits
what it makes of the tables or leaves the tables alone. -/

namespace Recurrence

namespace Tables

/-- The event with an id. -/
def read (t : Tables) (here : DateText.Standpoint) (id : Int) : Except Fault Event := do
  let key ← storedInteger id
  match t.event? key with
  | none => .error (.eventNotFound id)
  | some row => Event.ofRow here row

/-- The overrides of an event by their days. -/
def overrides (t : Tables) (here : DateText.Standpoint) (id : Int) :
    Except Fault (List Override) := do
  let key ← storedInteger id
  (t.exceptionsOf key).mapM (ExceptionRow.toOverride here)

/-- The occurrences of an event that start in a window, and its rule. -/
def occurrences (t : Tables) (c : Conditions) (id : Int) (first last : Moment) :
    Except Fault (List Occurrence × Option Rule) := do
  let event ← t.read c.standpoint id
  match ← event.rule? c.standpoint with
  | none => .ok ([], none)
  | some rule =>
    let overrides ← t.overrides c.standpoint id
    let all ← Series.expand { start := event.start, finish := event.finish, rule }
      (OverrideSet.ofList overrides)
      { queryEnd := some (.moment last), maxInstances := c.queryLimit,
        horizonYears := c.horizonYears }
    let inside ← occurrencesWithin first last all
    let _ ← rule.write
    .ok (inside, some rule)

/-- The tables with one more event, and its id. -/
def added (t : Tables) (c : Conditions) (title : Option Text) (start finish : Moment)
    (rule : Option Rule) (parent : Option Int) : Except Fault (Tables × Int) := do
  let columns ← RuleColumns.ofRule rule
  let count ← storedInteger? columns.count
  let parent ← storedInteger? parent
  t.insertEvent (Store.newRow c title start finish { columns with count } parent)

/-- What a new row tells of the id, the parent and the moments it was made for. -/
theorem newRow_eq_ok {c : Conditions} {title : Option Text} {start finish : Moment}
    {columns : RuleColumns} {parent : Option Int} {id : Int} {row : EventRow}
    (h : Store.newRow c title start finish columns parent id = .ok row) :
    row.id = id ∧ row.parent = parent ∧ row.start = start.compactText
      ∧ row.finish = finish.compactText := by
  cases title with
  | none => cases h
  | some name =>
      cases h
      exact ⟨rfl, rfl, rfl, rfl⟩

theorem added_eq_ok {t t' : Tables} {c : Conditions} {title : Option Text} {start finish : Moment}
    {rule : Option Rule} {parent : Option Int} {id : Int}
    (h : t.added c title start finish rule parent = .ok (t', id)) :
    ∃ columns row, RuleColumns.ofRule rule = .ok columns ∧ columns.count.all fitsWord = true
      ∧ fitsWord id = true ∧ id = t.lastEvent + 1
      ∧ Store.newRow c title start finish columns parent id = .ok row
      ∧ t' = { t with events := t.events ++ [row], lastEvent := id } := by
  obtain ⟨columns, given, h⟩ := bind_eq_ok.mp h
  obtain ⟨count, counted, h⟩ := bind_eq_ok.mp h
  obtain ⟨owner, owned, h⟩ := bind_eq_ok.mp h
  obtain ⟨countFits, rfl⟩ := storedInteger?_eq_ok.mp counted
  obtain ⟨-, rfl⟩ := storedInteger?_eq_ok.mp owned
  obtain ⟨fits, number, row, made, left⟩ := insertEvent_eq_ok h
  exact ⟨columns, row, given, countFits, fits, number, made, left⟩

/-- The tables with another rule for an event. -/
def ruled (t : Tables) (c : Conditions) (id : Int) (rule : Option Rule) :
    Except Fault (Tables × Unit) := do
  let _ ← t.read c.standpoint id
  let columns ← RuleColumns.ofRule rule
  let count ← storedInteger? columns.count
  .ok (t.updateEvent id fun e =>
    { e with
      ruleText := columns.text, endDate := columns.endDate, count, modified := c.now.compactText },
    ())

end Tables

namespace Store

/-- What is left by an action that commits what it makes of the tables, or fails with the tables
as they were. -/
def settle {α : Type} (s : Store) (notes : List StoreNote) :
    Except Fault (Tables × α) → Except Fault α × Store
  | .ok (t, a) => (.ok a, ⟨t, t, notes⟩)
  | .error fault => (.error fault, { s with notes })

theorem settle_eq_ok {α : Type} {s after : Store} {notes : List StoreNote}
    {outcome : Except Fault (Tables × α)} {a : α} (h : s.settle notes outcome = (.ok a, after)) :
    ∃ t, outcome = .ok (t, a) ∧ after = ⟨t, t, notes⟩ := by
  cases outcome with
  | error fault => cases h
  | ok result =>
      cases h
      exact ⟨_, rfl, rfl⟩

theorem Holds.settle {α : Type} {P : Tables → Prop} {s : Store} {outcome : Except Fault (Tables × α)}
    (held : s.Holds P) (notes : List StoreNote) (made : ∀ t a, outcome = .ok (t, a) → P t) :
    (s.settle notes outcome).2.Holds P := by
  cases outcome with
  | error fault => exact held
  | ok result =>
      have kept := made result.1 result.2 rfl
      exact ⟨kept, kept⟩

section Steps

variable {α β γ : Type} {s : Store} {a : StoreAction α} {e : Except Fault α} {f : α → StoreAction β}

/-- What follows a reading rests on what was read; `left` tells what is left by what it comes to. -/
theorem call_bind_reading {left : List StoreNote → Except Fault γ → Except Fault β × Store}
    {g : α → Except Fault γ} (fails : ∀ fault, left s.notes (.error fault) = (.error fault, s))
    (first : s.call a = (e, s)) (rest : ∀ x, ∃ notes, s.call (f x) = left notes (g x)) :
    ∃ notes, s.call (a >>= f) = left notes (e >>= g) := by
  cases e with
  | error fault =>
      rw [call_bind_error f first]
      exact ⟨s.notes, (fails fault).symm⟩
  | ok x =>
      rw [call_bind_ok f first]
      exact rest x

theorem call_bind_read {g : α → Except Fault β} (first : s.call a = (e, s))
    (rest : ∀ x, ∃ notes, s.call (f x) = (g x, { s with notes })) :
    ∃ notes, s.call (a >>= f) = (e >>= g, { s with notes }) :=
  @call_bind_reading α β β s a e f (fun notes outcome => (outcome, { s with notes })) g
    (fun _ => rfl) first rest

theorem call_bind_settle {g : α → Except Fault (Tables × β)} (first : s.call a = (e, s))
    (rest : ∀ x, ∃ notes, s.call (f x) = s.settle notes (g x)) :
    ∃ notes, s.call (a >>= f) = s.settle notes (e >>= g) :=
  call_bind_reading (fun _ => rfl) first rest

end Steps

section Calls

variable (s : Store) (c : Conditions) (id : Int)

theorem call_getEvent : s.call (getEvent c id) = (s.tables.read c.standpoint id, s) := by
  unfold getEvent Tables.read
  cases storedInteger id with
  | error fault => rfl
  | ok key =>
      rw [call_bind_ok _ (call_lift s _), call_bind_ok _ (call_tablesNow s), ok_bind]
      cases s.tables.event? key with
      | none => rfl
      | some row => exact call_lift s _

theorem call_getExceptions :
    s.call (getExceptions c id) = (s.tables.overrides c.standpoint id, s) := by
  unfold getExceptions Tables.overrides
  cases storedInteger id with
  | error fault => rfl
  | ok key =>
      rw [call_bind_ok _ (call_lift s _), call_bind_ok _ (call_tablesNow s), ok_bind]
      exact call_lift s _

/-- Fetching occurrences leaves the tables as they are. -/
theorem call_getOccurrences (first last : Moment) :
    ∃ notes, s.call (getOccurrences c id first last)
      = (s.tables.occurrences c id first last, { s with notes }) := by
  apply call_bind_read (s.call_getEvent c id)
  intro event
  apply call_bind_read (call_lift s _)
  intro rule?
  cases rule? with
  | none => exact ⟨s.notes, rfl⟩
  | some rule =>
      apply call_bind_read (s.call_getExceptions c id)
      intro overrides
      apply call_bind_read (call_lift s _)
      intro all
      apply call_bind_read (call_lift s _)
      intro inside
      apply call_bind_read (call_lift s _)
      intro text
      exact ⟨_, rfl⟩

theorem call_addEvent (title : Option Text) (start finish : Moment) (rule : Option Rule)
    (parent : Option Int) :
    ∃ notes, s.call (addEvent c title start finish rule parent)
      = s.settle notes (s.tables.added c title start finish rule parent) := by
  apply call_bind_settle (call_lift s _)
  intro columns
  apply call_bind_settle (call_lift s _)
  intro count
  apply call_bind_settle (call_lift s _)
  intro owner
  rw [call_bind_ok _ (call_tablesNow s)]
  cases s.tables.insertEvent (newRow c title start finish { columns with count } owner) with
  | error fault => exact ⟨_, rfl⟩
  | ok made => exact ⟨_, rfl⟩

/-- A series is added where its rule passes the check. -/
theorem call_createSeries (title : Option Text) (start finish : Moment) (rule : Rule)
    (today : Option Date) :
    ∃ notes, s.call (createSeries c title start finish rule today)
      = s.settle notes (do
          rule.check (today.getD c.today)
          s.tables.added c title start finish (some rule) none) := by
  apply call_bind_settle (call_lift s _)
  intro _
  obtain ⟨notes, added⟩ := s.call_addEvent c title start finish (some rule) none
  cases made : s.tables.added c title start finish (some rule) none with
  | error fault =>
      rw [made] at added
      rw [call_bind_error _ added]
      exact ⟨notes, rfl⟩
  | ok result =>
      -- A rule that gave columns has been written already.
      obtain ⟨columns, given, _⟩ := bind_eq_ok.mp made
      obtain ⟨text, written, _⟩ := map_eq_ok.mp given
      rw [made] at added
      rw [call_bind_ok _ added, written]
      exact ⟨_, rfl⟩

theorem call_updateRule (rule : Option Rule) :
    ∃ notes, s.call (updateRule c id rule) = s.settle notes (s.tables.ruled c id rule) := by
  apply call_bind_settle (s.call_getEvent c id)
  intro event
  apply call_bind_settle (call_lift s _)
  intro columns
  apply call_bind_settle (call_lift s _)
  intro count
  exact ⟨s.notes, rfl⟩

end Calls

end Store

end Recurrence
