import Recurrence.Proofs.Rule.Stored
import Recurrence.Proofs.Store.Run
import Recurrence.Proofs.Store.Cascade

/-! The writes that calls make to the tables. Whatever a call comes to, a property of the tables
that outlasts each of its writes outlasts the call, and so every run of calls. -/

namespace Recurrence

/-- The row of an event from one moment to another, with the columns of its rule. -/
structure EventRow.Records (row : EventRow) (start finish : Moment) (rule : Option Rule) : Prop where
  start : row.start = start.compactText
  finish : row.finish = finish.compactText
  columns : RuleColumns.ofRule rule = .ok ⟨row.ruleText, row.endDate, row.count⟩

namespace Store

/-- One write to the tables. -/
inductive Write
  | insert (row : EventRow)
  | setRule (id : Int) (columns : RuleColumns) (modified : Text)
  | put (parent : Int) (date : Text) (kind : OverrideKind) (replacement : Option Int)
  | removeExceptions (test : ExceptionRow → Bool)
  /-- Deletes the events that pass a test, with what belongs to them, as far as a deletion goes. -/
  | drop (test : EventRow → Bool)

namespace Write

def apply (t : Tables) : Write → Except Fault Tables
  | insert row => (t.insertEvent fun id => .ok { row with id }).map Prod.fst
  | setRule id columns modified =>
    .ok (t.updateEvent id fun e =>
      { e with
        ruleText := columns.text, endDate := columns.endDate, count := columns.count, modified })
  | put parent date kind replacement => t.putException parent date kind replacement
  | removeExceptions test => .ok (t.deleteExceptions test)
  | drop test => .ok (t.deletion test).left

/-- Deletes an event that belongs to another one. -/
abbrev dropChild (child parent : Int) : Write :=
  drop fun e => e.id == child && e.parent == some parent

/-- Removes the exception of a day. -/
abbrev removeException (parent : Int) (date : Text) : Write :=
  removeExceptions fun x => x.parent == parent && x.date == date

/-- A property of the tables outlasts the write. -/
def Keeps (P : Tables → Prop) (w : Write) : Prop := ∀ t t', P t → w.apply t = .ok t' → P t'

/-- A write that adds no event leaves to all rows what is known of them, if it does so where it sets a
rule. -/
theorem keeps_rows {w : Write} {Q : EventRow → Prop} (quiet : ∀ row, w ≠ .insert row)
    (sets : ∀ id columns modified, w = .setRule id columns modified → ∀ e : EventRow, Q e →
      Q { e with
        ruleText := columns.text, endDate := columns.endDate, count := columns.count, modified }) :
    w.Keeps fun t => ∀ e ∈ t.events, Q e := by
  intro t t' h applied
  cases w with
  | insert row => exact absurd rfl (quiet row)
  | setRule id columns modified =>
      cases applied
      intro a member
      obtain ⟨e, there, rfl⟩ := List.mem_map.mp member
      split
      · exact sets id columns modified rfl e (h e there)
      · exact h e there
  | put =>
      obtain ⟨-, events, -⟩ := Tables.putException_eq_ok applied
      exact events ▸ h
  | removeExceptions =>
      cases applied
      exact h
  | drop test =>
      cases applied
      exact fun e member => h e ((t.thinsTo_deletion test).mem_events member)

end Write

section Actions

variable {P : Tables → Prop} {c : Conditions} {id : Int}

theorem keeps_deleteEvents {test : EventRow → Bool} (h : (Write.drop test).Keeps P) :
    Keeps P (deleteEvents test) := by
  unfold deleteEvents
  apply keeps_tablesNow
  intro t held
  apply keeps_bind (keeps_setTables (h t _ held rfl))
  intro _
  split
  · exact keeps_pure _
  · exact keeps_throw _

theorem keeps_getEvent : Keeps P (getEvent c id) := by
  unfold getEvent
  apply keeps_lift_bind
  intro key _
  apply keeps_tablesNow
  intro t _
  split
  · exact keeps_throw _
  · exact keeps_lift _

theorem keeps_getExceptions : Keeps P (getExceptions c id) := by
  unfold getExceptions
  apply keeps_lift_bind
  intro key _
  apply keeps_tablesNow
  intro t _
  exact keeps_lift _

theorem keeps_addEvent {title : Option Text} {start finish : Moment} {rule : Option Rule}
    {parent : Option Int}
    (h : ∀ row : EventRow, row.parent = parent → row.Records start finish rule →
      (Write.insert row).Keeps P) :
    Keeps P (addEvent c title start finish rule parent) := by
  unfold addEvent
  apply keeps_lift_bind
  intro columns given
  apply keeps_lift_bind
  intro count counted
  obtain ⟨-, rfl⟩ := storedInteger?_eq_ok.mp counted
  apply keeps_lift_bind
  intro bound same
  obtain ⟨-, rfl⟩ := storedInteger?_eq_ok.mp same
  apply keeps_tablesNow
  intro t held
  split
  · apply keeps_bind
    · exact keeps_note c _ _
    · exact fun _ => keeps_throw _
  · rename_i t' new inserted
    obtain ⟨-, -, e, made, -⟩ := Tables.insertEvent_eq_ok inserted
    cases title with
    | none => cases made
    | some name =>
        let row : EventRow := {
          id := new, title := name, start := start.compactText, finish := finish.compactText
          ruleText := columns.text, endDate := columns.endDate, count := columns.count, parent
          created := c.now.compactText, modified := c.now.compactText }
        have kept : P t' := by
          apply h row rfl ⟨rfl, rfl, given⟩ t t' held
          rw [Write.apply]
          exact congrArg (Except.map Prod.fst) inserted
        apply keeps_bind (keeps_setTables kept)
        intro _
        apply keeps_bind keeps_commit
        intro _
        exact keeps_pure _

theorem keeps_updateRule {rule : Option Rule}
    (h : ∀ columns modified, RuleColumns.ofRule rule = .ok columns →
      (Write.setRule id columns modified).Keeps P) :
    Keeps P (updateRule c id rule) := by
  unfold updateRule
  apply keeps_bind keeps_getEvent
  intro _
  apply keeps_lift_bind
  intro columns given
  apply keeps_lift_bind
  intro count same
  obtain ⟨-, rfl⟩ := storedInteger?_eq_ok.mp same
  apply keeps_tablesNow
  intro t held
  apply keeps_bind
  · exact keeps_setTables (h columns c.now.compactText given t _ held rfl)
  · exact fun _ => keeps_commit

theorem keeps_dropReplaced {day : Date} {keep : Option Text}
    (h : ∀ child, (Write.dropChild child id).Keeps P) : Keeps P (dropReplaced id day keep) := by
  unfold dropReplaced
  apply keeps_lift_bind
  intro key same
  obtain ⟨-, rfl⟩ := storedInteger_eq_ok.mp same
  apply keeps_tablesNow
  intro t held
  split
  · exact keeps_pure _
  · rename_i old _
    split
    · exact keeps_pure _
    · exact keeps_deleteEvents (h old)

theorem keeps_putException {o : Override} (drop : ∀ child, (Write.dropChild child id).Keeps P)
    (put : ∀ replacement, replacement.all fitsWord = true →
      (Write.put id o.date.compactText o.kind replacement).Keeps P) :
    Keeps P (putException c id o) := by
  have stores : ∀ replacement, Keeps P (do
      let replacement ← liftM (storedInteger? replacement)
      let tables ← liftM ((← tablesNow).putException id o.date.compactText o.kind replacement)
      setTables tables
      commit
      note c "put_exception".toList
        ("series ".toList ++ decimalInt id ++ ": ".toList ++ o.kind.name ++ " on ".toList
          ++ o.date.isoText)) := by
    intro replacement
    apply keeps_lift_bind
    intro stored same
    obtain ⟨fits, rfl⟩ := storedInteger?_eq_ok.mp same
    apply keeps_tablesNow
    intro t held
    apply keeps_lift_bind
    intro t' made
    apply keeps_bind (keeps_setTables (put replacement fits t t' held made))
    intro _
    apply keeps_bind keeps_commit
    exact fun _ => keeps_note c _ _
  unfold putException
  apply keeps_bind keeps_getEvent
  intro _
  apply keeps_bind (keeps_dropReplaced drop)
  intro _
  split
  · exact stores none
  · apply keeps_lift_bind
    intro replacement _
    exact stores replacement

theorem keeps_removeException {day : Date} (drop : ∀ child, (Write.dropChild child id).Keeps P)
    (remove : (Write.removeException id day.compactText).Keeps P) :
    Keeps P (removeException id day) := by
  unfold removeException
  apply keeps_bind (keeps_dropReplaced drop)
  intro _
  apply keeps_tablesNow
  intro t held
  apply keeps_bind (keeps_setTables (remove t _ held rfl))
  intro _
  apply keeps_bind keeps_commit
  exact fun _ => keeps_pure _

theorem keeps_restoreOccurrence {day : Date} (drop : ∀ child, (Write.dropChild child id).Keeps P)
    (remove : (Write.removeException id day.compactText).Keeps P) :
    Keeps P (restoreOccurrence c id day) := by
  unfold restoreOccurrence
  apply keeps_bind keeps_getEvent
  exact fun _ => keeps_removeException drop remove

theorem keeps_createSeries {title : Option Text} {start finish : Moment} {rule : Rule}
    {today : Option Date}
    (h : ∀ row : EventRow, row.parent = none → row.Records start finish (some rule) →
      (Write.insert row).Keeps P) :
    Keeps P (createSeries c title start finish rule today) := by
  unfold createSeries
  apply keeps_lift_bind
  intro _ _
  apply keeps_bind (keeps_addEvent h)
  intro _
  apply keeps_lift_bind
  intro _ _
  apply keeps_bind (keeps_note c _ _)
  exact fun _ => keeps_pure _

theorem keeps_getOccurrences {first last : Moment} : Keeps P (getOccurrences c id first last) := by
  unfold getOccurrences
  apply keeps_bind keeps_getEvent
  intro event
  apply keeps_lift_bind
  intro rule? _
  split
  · exact keeps_pure _
  · apply keeps_bind keeps_getExceptions
    intro overrides
    apply keeps_lift_bind
    intro all _
    apply keeps_lift_bind
    intro inside _
    apply keeps_lift_bind
    intro text _
    apply keeps_bind (keeps_note c _ _)
    exact fun _ => keeps_pure _

theorem keeps_overrideOccurrence {day : Date} {kind : OverrideKind} {title : Option Text}
    {start finish : Option Moment}
    (insert : ∀ (row : EventRow) begins ends, row.parent = some id → row.Records begins ends none →
      (Write.insert row).Keeps P)
    (drop : ∀ child, (Write.dropChild child id).Keeps P)
    (put : ∀ replacement, replacement.all fitsWord = true →
      (Write.put id day.compactText kind replacement).Keeps P) :
    Keeps P (overrideOccurrence c id day kind title start finish) := by
  unfold overrideOccurrence
  apply keeps_bind keeps_getEvent
  intro event
  apply keeps_lift_bind
  rintro ⟨slotStart, slotFinish⟩ -
  have stores : ∀ title begin finish, Keeps P (do
      let child ← addEvent c (some title) begin finish none (some id)
      putException c id { date := day, kind, replacement := some (decimalInt child) }
      pure child) := by
    intro title begin finish
    apply keeps_bind (keeps_addEvent fun row owned records => insert row _ _ owned records)
    intro child
    apply keeps_bind
    · exact keeps_putException drop put
    · exact fun _ => keeps_pure _
  cases finish with
  | some m =>
      apply keeps_bind (keeps_pure m)
      exact fun _ => stores _ _ _
  | none =>
      apply keeps_lift_bind
      intro duration _
      apply keeps_lift_bind
      exact fun _ _ => stores _ _ _

theorem keeps_deleteSeries
    (own : (Write.removeExceptions fun x => x.parent == id).Keeps P)
    (children : (Write.drop fun e => e.parent == some id).Keeps P)
    (event : (Write.drop fun e => e.id == id).Keeps P) : Keeps P (deleteSeries c id) := by
  unfold deleteSeries
  apply keeps_bind keeps_getEvent
  intro _
  apply keeps_tablesNow
  intro t held
  apply keeps_bind (keeps_setTables (own t _ held rfl))
  intro _
  apply keeps_bind (keeps_deleteEvents children)
  intro _
  apply keeps_bind (keeps_deleteEvents event)
  intro _
  apply keeps_bind keeps_commit
  exact fun _ => keeps_note c _ _

theorem keeps_splitSeries {day : Date} {rule : Option Rule} {title : Option Text}
    {today : Option Date}
    (setRule : ∀ (old : Rule) columns modified, old.IsCoded → RuleColumns.ofRule (some old) = .ok columns →
      (Write.setRule id columns modified).Keeps P)
    (insert : ∀ (row : EventRow) begins ends (new : Rule), row.parent = none →
      rule = some new ∨ new.IsCoded → row.Records begins ends (some new) →
      (Write.insert row).Keeps P) :
    Keeps P (splitSeries c id day rule title today) := by
  unfold splitSeries
  apply keeps_bind keeps_getEvent
  intro event
  apply keeps_lift_bind
  intro rule? recurring
  split
  · exact keeps_throw _
  · rename_i old
    have coded : old.IsCoded := Event.isCoded_of_rule? recurring
    apply keeps_lift_bind
    intro _ _
    apply keeps_lift_bind
    intro before _
    apply keeps_bind
    · exact keeps_updateRule fun columns modified => setRule (old.endedBy before) columns modified coded
    intro _
    apply keeps_lift_bind
    intro slot _
    have origin : rule = some (rule.getD { old with count := none })
        ∨ (rule.getD { old with count := none }).IsCoded := by
      cases rule with
      | none => exact .inr coded
      | some new => exact .inl rfl
    apply keeps_bind (keeps_addEvent fun row owned => insert row _ _ _ owned origin)
    intro child
    apply keeps_bind (keeps_note c _ _)
    exact fun _ => keeps_pure _

end Actions

end Store

end Recurrence
