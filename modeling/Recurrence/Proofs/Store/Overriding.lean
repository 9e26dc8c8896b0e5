import Recurrence.Proofs.Store.Outcome

/-! What calls on single days come to, as functions of the tables they find. The event that stands
in for the day is dropped first. What fails in that or after it leaves it dropped and nothing
committed. -/

namespace Recurrence

/-- Whether a deletion fails: it does where it is not whole. -/
def Deletion.ending (d : Deletion) : Except Fault Unit :=
  if d.isWhole then .ok () else .error (@Fault.storeUnavailable .tooDeep)

theorem Deletion.ending_eq_ok {d : Deletion} {u : Unit} : d.ending = .ok u ↔ d.isWhole = true :=
  guarded_eq_ok.trans (and_iff_left rfl)

theorem Deletion.fails_ending {d : Deletion} : Fails d.ending ↔ d.isWhole = false := by
  unfold ending
  cases d.isWhole with
  | false => exact ⟨fun _ => rfl, fun _ => ⟨_, rfl⟩⟩
  | true => exact ⟨fun failed => absurd failed (not_fails_ok _), nofun⟩

/-- The id of the event that stands in, where there is one. -/
def Override.standIn (o : Override) : Except Fault (Option Int) :=
  match o.replacement with
  | none => .ok none
  | some text => (Integer.read text).map some

/-- From when to when an event stands in on a day: between the moments given, otherwise as long as
the slot of the day, and from its start if no other is given. -/
def Event.standInSpan (e : Event) (day : Date) (start finish : Option Moment) :
    Except Fault (Moment × Moment) := do
  let (slotStart, slotFinish) ← e.slot day
  let begins := start.getD slotStart
  match finish with
  | some ends => .ok (begins, ends)
  | none =>
    let duration ← slotFinish.since slotStart
    let ends ← begins.add duration
    .ok (begins, ends)

namespace Tables

/-- The stand-in of a day that is to go: the one the day's exception names, unless it is kept. -/
def replaced? (t : Tables) (id : Int) (day : Date) (keep : Option Text) : Option Int :=
  ((t.exceptionOn? id day.compactText).bind ExceptionRow.replacement).filter fun old =>
    decide (keep ≠ some (decimalInt old))

/-- The deletion of the stand-in of a day that is to go. -/
def dropping (t : Tables) (id : Int) (day : Date) (keep : Option Text) : Deletion :=
  match t.replaced? id day keep with
  | none => ⟨t, true⟩
  | some old => t.deletion fun e => e.id == old && e.parent == some id

/-- What the deletion of the stand-in of a day leaves. -/
def dropped (t : Tables) (id : Int) (day : Date) (keep : Option Text) : Tables :=
  (t.dropping id day keep).left

/-- The tables with the override of a day, whose stand-in has an id that can be stored. -/
def put (t : Tables) (id : Int) (o : Override) : Except Fault (Tables × Unit) := do
  let replacement ← o.standIn
  let replacement ← storedInteger? replacement
  (t.putException id o.date.compactText o.kind replacement).map fun t => (t, ())

/-- The tables with the override of a day in the place of the stand-in that the day had. -/
def replacing (t : Tables) (id : Int) (o : Override) : Except Fault (Tables × Unit) := do
  (t.dropping id o.date o.replacement).ending
  (t.dropped id o.date o.replacement).put id o

theorem replacing_eq_ok {t : Tables} {id : Int} {o : Override} {result : Tables × Unit} :
    t.replacing id o = .ok result
      ↔ (t.dropping id o.date o.replacement).isWhole = true
        ∧ (t.dropped id o.date o.replacement).put id o = .ok result := by
  rw [replacing, bind_eq_ok]
  constructor
  · rintro ⟨_, whole, made⟩
    exact ⟨Deletion.ending_eq_ok.mp whole, made⟩
  · rintro ⟨whole, made⟩
    exact ⟨(), Deletion.ending_eq_ok.mpr whole, made⟩

theorem fails_replacing {t : Tables} {id : Int} {o : Override} :
    Fails (t.replacing id o)
      ↔ (t.dropping id o.date o.replacement).isWhole = false
        ∨ Fails ((t.dropped id o.date o.replacement).put id o) := by
  rw [replacing, fails_bind, Deletion.fails_ending]
  simp only [Deletion.ending_eq_ok, exists_const]
  cases (t.dropping id o.date o.replacement).isWhole with
  | false => exact iff_of_true (.inl rfl) (.inl rfl)
  | true => exact or_congr_right ⟨And.right, fun failed => ⟨rfl, failed⟩⟩

def removed (t : Tables) (id : Int) (day : Date) : Tables :=
  (t.dropped id day none).deleteExceptions fun x => x.parent == id && x.date == day.compactText

/-- The tables without the exception of a day and its stand-in, and whether there was one. -/
def removing (t : Tables) (id : Int) (day : Date) : Except Fault (Tables × Bool) :=
  (t.dropping id day none).ending.map fun _ =>
    (t.removed id day, (t.dropped id day none).exceptions.any fun x =>
      x.parent == id && x.date == day.compactText)

/-- The deletion of what belongs to an event, and then of the event. -/
def deleting (t : Tables) (id : Int) : Deletion :=
  let children := (t.deleteExceptions fun x => x.parent == id).deletion fun e => e.parent == some id
  if children.isWhole then children.left.deletion fun e => e.id == id else children

/-- The tables without an event and all that belongs to it, as far as its deletion goes. -/
def deleted (t : Tables) (id : Int) : Tables := (t.deleting id).left

/-- The tables with the event that is to stand in for an occurrence, and its id. -/
def standing (t : Tables) (c : Conditions) (id : Int) (day : Date) (title : Option Text)
    (start finish : Option Moment) : Except Fault (Tables × Int) := do
  let event ← t.read c.standpoint id
  let (begins, ends) ← event.standInSpan day start finish
  t.added c (some (event.titleOr title)) begins ends none (some id)

theorem fitsWord_of_read {t : Tables} {here : DateText.Standpoint} {id : Int} {e : Event}
    (h : t.read here id = .ok e) : fitsWord id = true := by
  obtain ⟨key, stored, -⟩ := bind_eq_ok.mp h
  exact (storedInteger_eq_ok.mp stored).1

end Tables

namespace Store

/-- The store without the stand-in of a day, which is not committed. -/
def dropping (s : Store) (id : Int) (day : Date) (keep : Option Text) : Store :=
  { s with tables := s.tables.dropped id day keep }

section Calls

variable (s : Store) {c : Conditions} {id : Int} {e : Event}

theorem call_deleteEvents (test : EventRow → Bool) :
    s.call (deleteEvents test)
      = ((s.tables.deletion test).ending, { s with tables := (s.tables.deletion test).left }) := by
  have set : s.call (setTables (s.tables.deletion test).left)
      = (.ok (), { s with tables := (s.tables.deletion test).left }) := rfl
  unfold deleteEvents Deletion.ending
  rw [call_bind_ok _ (call_tablesNow s), call_bind_ok _ set]
  cases (s.tables.deletion test).isWhole <;> rfl

theorem call_dropReplaced (fits : fitsWord id = true) (day : Date) (keep : Option Text) :
    s.call (dropReplaced id day keep)
      = ((s.tables.dropping id day keep).ending, s.dropping id day keep) := by
  have key : storedInteger id = .ok id := storedInteger_eq_ok.mpr ⟨fits, rfl⟩
  unfold dropReplaced
  rw [key, call_bind_ok _ (call_lift s _), call_bind_ok _ (call_tablesNow s), dropping,
    Tables.dropped, Tables.dropping, Tables.replaced?]
  cases (s.tables.exceptionOn? id day.compactText).bind ExceptionRow.replacement with
  | none => rfl
  | some old =>
      by_cases kept : keep = some (decimalInt old)
      · simp only [Option.filter_some, kept, ne_eq, not_true_eq_false, decide_false,
          Bool.false_eq_true, if_false]
        rfl
      · simp only [Option.filter_some, kept, ne_eq, not_false_eq_true, decide_true, if_true,
          if_false]
        exact s.call_deleteEvents _

/-- The last part of putting an override, when the id of its stand-in has been read. -/
theorem call_storeException (o : Override) (replacement : Option Int) :
    ∃ notes, s.call (do
        let replacement ← liftM (storedInteger? replacement)
        let tables ← liftM ((← tablesNow).putException id o.date.compactText o.kind replacement)
        setTables tables
        commit
        note c "put_exception".toList
          ("series ".toList ++ decimalInt id ++ ": ".toList ++ o.kind.name ++ " on ".toList
            ++ o.date.isoText))
      = s.settle notes (do
          let replacement ← storedInteger? replacement
          (s.tables.putException id o.date.compactText o.kind replacement).map fun t => (t, ())) := by
  apply call_bind_settle (call_lift s _)
  intro stored
  rw [call_bind_ok _ (call_tablesNow s)]
  cases made : s.tables.putException id o.date.compactText o.kind stored with
  | error fault => exact ⟨s.notes, rfl⟩
  | ok t => exact ⟨_, rfl⟩

/-- What follows the drop of a stand-in is done without it, if it was dropped whole. -/
theorem call_bind_dropReplaced {α : Type} {f : Unit → StoreAction α} {day : Date}
    {keep : Option Text} {g : Except Fault (Tables × α)} (fits : fitsWord id = true)
    (rest : ∃ notes, (s.dropping id day keep).call (f ())
      = (s.dropping id day keep).settle notes g) :
    ∃ notes, s.call (dropReplaced id day keep >>= f)
      = (s.dropping id day keep).settle notes
          ((s.tables.dropping id day keep).ending >>= fun _ => g) := by
  have drop := s.call_dropReplaced fits day keep
  cases ends : (s.tables.dropping id day keep).ending with
  | error fault =>
      rw [ends] at drop
      exact ⟨s.notes, call_bind_error f drop⟩
  | ok u =>
      rw [ends] at drop
      rw [call_bind_ok f drop]
      exact rest

/-- Putting an override commits it, or leaves the stand-in of the day dropped. -/
theorem call_putException (read : s.tables.read c.standpoint id = .ok e) (o : Override) :
    ∃ notes, s.call (putException c id o)
      = (s.dropping id o.date o.replacement).settle notes (s.tables.replacing id o) := by
  have found : s.call (getEvent c id) = (.ok e, s) := by rw [call_getEvent, read]
  unfold putException
  rw [call_bind_ok _ found]
  apply s.call_bind_dropReplaced (Tables.fitsWord_of_read read)
  unfold Tables.put Override.standIn
  cases o.replacement with
  | none => exact call_storeException _ o none
  | some text =>
      apply call_bind_settle (call_lift _ _)
      intro replacement
      exact call_storeException _ o replacement

/-- A call on an event that cannot be read changes nothing. -/
theorem call_of_unread {α : Type} {fault : Fault} (unread : s.tables.read c.standpoint id = .error fault)
    (f : Event → StoreAction α) : s.call (getEvent c id >>= f) = (.error fault, s) := by
  apply call_bind_error
  rw [call_getEvent, unread]

/-- Removing an override commits it, or leaves the stand-in of the day dropped. -/
theorem call_removeException (fits : fitsWord id = true) (day : Date) :
    ∃ notes, s.call (removeException id day)
      = (s.dropping id day none).settle notes (s.tables.removing id day) :=
  s.call_bind_dropReplaced fits ⟨s.notes, rfl⟩

theorem call_restoreOccurrence (read : s.tables.read c.standpoint id = .ok e) (day : Date) :
    ∃ notes, s.call (restoreOccurrence c id day)
      = (s.dropping id day none).settle notes (s.tables.removing id day) := by
  have found : s.call (getEvent c id) = (.ok e, s) := by rw [call_getEvent, read]
  unfold restoreOccurrence
  rw [call_bind_ok _ found]
  exact s.call_removeException (Tables.fitsWord_of_read read) day

/-- Deleting a series commits it, or leaves what the deletion has left by then. -/
theorem call_deleteSeries (read : s.tables.read c.standpoint id = .ok e) :
    ∃ notes, s.call (deleteSeries c id)
      = ({ s with tables := s.tables.deleted id } : Store).settle notes
          ((s.tables.deleting id).ending.map fun _ => (s.tables.deleted id, ())) := by
  have found : s.call (getEvent c id) = (.ok e, s) := by rw [call_getEvent, read]
  let own : Store := { s with tables := s.tables.deleteExceptions fun x => x.parent == id }
  have set : s.call (setTables (s.tables.deleteExceptions fun x => x.parent == id))
      = (.ok (), own) := rfl
  have first := own.call_deleteEvents fun e => e.parent == some id
  unfold deleteSeries Tables.deleted Tables.deleting
  rw [call_bind_ok _ found, call_bind_ok _ (call_tablesNow s), call_bind_ok _ set]
  cases whole : (own.tables.deletion fun e => e.parent == some id).isWhole with
  | false =>
      rw [Deletion.ending, whole, if_neg Bool.false_ne_true] at first
      rw [call_bind_error _ first]
      refine ⟨s.notes, ?_⟩
      dsimp only [own] at whole
      simp only [whole, Bool.false_eq_true, if_false, Deletion.ending]
      rfl
  | true =>
      rw [Deletion.ending, whole, if_pos rfl] at first
      have second := call_deleteEvents
        { s with tables := (own.tables.deletion fun e => e.parent == some id).left }
        fun e => e.id == id
      rw [call_bind_ok _ first]
      dsimp only [own] at whole second
      simp only [whole, if_true]
      cases ends : (((s.tables.deleteExceptions fun x => x.parent == id).deletion fun e =>
          e.parent == some id).left.deletion fun e => e.id == id).ending with
      | error fault =>
          rw [ends] at second
          rw [call_bind_error _ second]
          exact ⟨s.notes, rfl⟩
      | ok u =>
          rw [ends] at second
          rw [call_bind_ok _ second]
          exact ⟨_, rfl⟩

/-- Overriding an occurrence adds the event that is to stand in, or changes nothing, and then puts the
override of the day. -/
theorem call_overrideOccurrence (c : Conditions) (id : Int) (day : Date) (kind : OverrideKind)
    (title : Option Text) (start finish : Option Moment) :
    ∃ notes, s.call (overrideOccurrence c id day kind title start finish)
      = match s.tables.standing c id day title start finish with
        | .error fault => (.error fault, { s with notes })
        | .ok (t, child) => Prod.map (Except.map fun _ => child) (fun after => after)
            (call ⟨t, t, notes⟩
              (putException c id { date := day, kind, replacement := some (decimalInt child) })) := by
  unfold overrideOccurrence Tables.standing
  let left : List StoreNote → Except Fault (Tables × Int) → Except Fault Int × Store :=
    fun notes made => match made with
      | .error fault => (.error fault, { s with notes })
      | .ok (t, child) => Prod.map (Except.map fun _ => child) (fun after => after)
          (call ⟨t, t, notes⟩
            (putException c id { date := day, kind, replacement := some (decimalInt child) }))
  have stays : ∀ fault, left s.notes (.error fault) = (.error fault, s) := fun _ => rfl
  have stands : ∀ name begins ends, ∃ notes, s.call (do
      let child ← addEvent c (some name) begins ends none (some id)
      putException c id { date := day, kind, replacement := some (decimalInt child) }
      pure child) = left notes (s.tables.added c (some name) begins ends none (some id)) := by
    intro name begins ends
    obtain ⟨notes, added⟩ := s.call_addEvent c (some name) begins ends none (some id)
    refine ⟨notes, ?_⟩
    cases made : s.tables.added c (some name) begins ends none (some id) with
    | error fault =>
        rw [made] at added
        exact call_bind_error _ added
    | ok result =>
        rw [made] at added
        rw [call_bind_ok _ added, call_bind]
        dsimp only [left]
        rcases call _ (putException c id _) with ⟨_ | _, after⟩
        · rfl
        · rfl
  apply call_bind_reading stays (s.call_getEvent c id)
  intro e
  rw [Event.standInSpan]
  cases placed : e.slot day with
  | error fault => exact ⟨s.notes, call_bind_error _ (call_lift s _)⟩
  | ok slot =>
      obtain ⟨slotStart, slotFinish⟩ := slot
      rw [call_bind_ok _ (call_lift s _), ok_bind]
      cases finish with
      | some ends => exact stands _ _ ends
      | none =>
          dsimp only
          cases apart : slotFinish.since slotStart with
          | error fault => exact ⟨s.notes, call_bind_error _ (call_lift s _)⟩
          | ok duration =>
              rw [call_bind_ok _ (call_lift s _), ok_bind]
              cases sum : (start.getD slotStart).add duration with
              | error fault => exact ⟨s.notes, call_bind_error _ (call_lift s _)⟩
              | ok ends =>
                  rw [call_bind_ok _ (call_lift s _), ok_bind]
                  exact stands _ _ ends

end Calls

end Store

end Recurrence
