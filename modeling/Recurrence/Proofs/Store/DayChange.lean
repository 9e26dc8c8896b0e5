import Recurrence.Proofs.Store.Telling
import Recurrence.Proofs.Store.Unlooped

/-! Changing the exception of a single day of an event: cancelling the day, restoring it, or putting
another event in its place. A change that succeeds leaves the event and its exceptions on other days
as they were, and for the day the override it was meant to have. -/

namespace Recurrence

/-- An exception on another day is read as one of the day, and its text comes behind that of the day
or the day has no exception of its own. -/
structure ExceptionRow.Shadows (x : ExceptionRow) (here : DateText.Standpoint) (day : Date)
    (flag : Option Override) : Prop where
  apart : x.date ≠ day.compactText
  read : DateText.day? here x.date = .ok (some day)
  behind : flag = none ∨ x.date.notAfter day.compactText = false

namespace Tables

variable {t t' : Tables} {id : Int} {day : Date} {here : DateText.Standpoint} {flag : Option Override}

/-- What a change of the exception of a day leaves of an event and its exceptions. -/
structure SetsDay (t : Tables) (id : Int) (day : Date) (flag : Option Override) (t' : Tables) :
    Prop where
  kept : ∀ row ∈ t.events, row.id = id → row ∈ t'.events
  others : ∀ x : ExceptionRow, x.parent = id → x.date ≠ day.compactText →
    (x ∈ t'.exceptions ↔ x ∈ t.exceptions)
  onDay : ∀ o, (∃ x ∈ t'.exceptions, x.parent = id ∧ x.date = day.compactText ∧ x.Holds o)
    ↔ flag = some o

theorem setsDay_put {o : Override} {replacement : Option Int} {u : Unit} (h : t.Unlooped)
    (year : 1000 ≤ o.date.year) (fits : replacement.all fitsWord = true)
    (names : o.replacement = replacement.map decimalInt)
    (made : t.replacing id o = .ok (t', u)) : t.SetsDay id o.date (some o) t' := by
  obtain ⟨-, made⟩ := replacing_eq_ok.mp made
  have left := @Unlooped.mem_dropped t id o.date o.replacement h
  have thin := t.thinsTo_dropping id o.date o.replacement
  have written := putException_of_put fits names made
  obtain ⟨-, events, -⟩ := putException_eq_ok written
  obtain ⟨-, kept, one, only⟩ := putsException written
  refine ⟨fun row there same => events ▸ left.1 row there same, ?_, ?_⟩
  · intro x owned apart
    constructor
    · intro member
      rcases only x member with ⟨old, -⟩ | ⟨-, here, -⟩
      · exact thin.mem_exceptions old
      · exact absurd here apart
    · exact fun member => kept x (left.2 x member owned) fun both => apart both.2
  · intro o'
    constructor
    · rintro ⟨x, member, owned, date, holds⟩
      rcases only x member with ⟨-, other⟩ | ⟨-, -, kind, stands⟩
      · exact absurd ⟨owned, date⟩ other
      · have put : x.Holds o := ⟨date, year, kind, names.trans (congrArg _ stands.symm)⟩
        rw [← ExceptionRow.told_of_holds put, ← ExceptionRow.told_of_holds holds]
    · rintro ⟨⟩
      obtain ⟨x, member, owned, date, kind, stands⟩ := one
      exact ⟨x, member, owned, date, date, year, kind, names.trans (congrArg _ stands.symm)⟩

theorem setsDay_removed (h : t.Unlooped) (day : Date) : t.SetsDay id day none (t.removed id day) := by
  have left := @Unlooped.mem_dropped t id day none h
  refine ⟨left.1, ?_, ?_⟩
  · intro x owned apart
    rw [removed, deleteExceptions, List.mem_filter]
    constructor
    · exact fun member => (t.thinsTo_dropping id day none).mem_exceptions member.1
    · intro member
      refine ⟨left.2 x member owned, ?_⟩
      rw [beq_false_of_ne apart, Bool.and_false]
      rfl
  · intro o
    refine ⟨?_, fun absent => absurd absent (Option.some_ne_none o).symm⟩
    rintro ⟨x, member, owned, date, -⟩
    have spared := (List.mem_filter.mp member).2
    dsimp only at spared
    rw [owned, date, beq_self_eq_true, beq_self_eq_true] at spared
    cases spared

section Overrides

variable {os os' : List Override}

/-- The exceptions of the event can still be read. -/
theorem SetsDay.exists_overrides (sets : t.SetsDay id day flag t') (year : 1000 ≤ day.year)
    (sound : t'.Sound) (read : t.overrides here id = .ok os) :
    ∃ os', t'.overrides here id = .ok os' := by
  obtain ⟨_, stored, rows⟩ := bind_eq_ok.mp read
  obtain ⟨-, rfl⟩ := storedInteger_eq_ok.mp stored
  rw [overrides, stored, ok_bind, exists_mapM_iff]
  intro x member
  obtain ⟨there, owned⟩ := Stores.mem_exceptionsOf.mp member
  by_cases same : x.date = day.compactText
  · have told := DateText.day?_compactText year here
    rw [← same] at told
    exact ⟨_, ExceptionRow.toOverride_of_day? told (sound.replacements x there)⟩
  · have before := (sets.others x owned same).mp there
    exact exists_of_mapM_eq_ok rows x (Stores.mem_exceptionsOf.mpr ⟨before, owned⟩)

/-- The same override counts for every other day. -/
theorem SetsDay.lastFor?_of_ne {d : Date} (sets : t.SetsDay id day flag t') (year : 1000 ≤ day.year)
    (sound : t.Sound) (sound' : t'.Sound) (read : t.overrides here id = .ok os)
    (read' : t'.overrides here id = .ok os') (other : d ≠ day) :
    Override.lastFor? os' d = Override.lastFor? os d := by
  apply sound.lastFor?_congr sound' read read'
  rintro x owned ⟨o, told, date⟩
  apply sets.others x owned
  intro same
  have shown := ExceptionRow.day?_of_toOverride told
  rw [same, DateText.day?_compactText year, date] at shown
  exact other (Option.some.inj (Except.ok.inj shown)).symm

/-- The override that was meant counts for the day, unless an exception on another day is read as one
of it. -/
theorem SetsDay.lastFor?_day (sets : t.SetsDay id day flag t') (year : 1000 ≤ day.year)
    (sound : t'.Sound) (read : t'.overrides here id = .ok os')
    (plain : ∀ x ∈ t.exceptions, x.parent = id → ¬ x.Shadows here day flag) :
    Override.lastFor? os' day = flag := by
  cases flag with
  | none =>
      apply Option.eq_none_iff_forall_ne_some.mpr
      intro o counts
      obtain ⟨x, counts⟩ := (sound.lastFor?_eq_some_iff read).mp counts
      obtain ⟨member, owned⟩ := Stores.mem_exceptionsOf.mp counts.member
      by_cases same : x.date = day.compactText
      · have holds : x.Holds ⟨day, x.kind, x.replacement.map decimalInt⟩ := ⟨same, year, rfl, rfl⟩
        cases (sets.onDay _).mp ⟨x, member, owned, same, holds⟩
      · have before := (sets.others x owned same).mp member
        exact plain x before owned ⟨same, counts.tells.day?, .inl rfl⟩
  | some o =>
      obtain ⟨x, member, owned, date, holds⟩ := (sets.onDay o).mpr rfl
      have tells : x.Tells here day o :=
        ⟨ExceptionRow.toOverride_of_holds holds (sound.replacements x member) here,
          Date.compactText_inj.mp (holds.date.symm.trans date)⟩
      refine (sound.lastFor?_eq_some_iff read).mpr
        ⟨x, Stores.mem_exceptionsOf.mpr ⟨member, owned⟩, tells, ?_⟩
      intro y there o' tells'
      obtain ⟨there, owned'⟩ := Stores.mem_exceptionsOf.mp there
      rw [date]
      by_cases same : y.date = day.compactText
      · rw [same]
        exact Text.notAfter_refl _
      · by_contra behind
        have before := (sets.others y owned' same).mp there
        exact plain y before owned' ⟨same, tells'.day?, .inr (Bool.eq_false_iff.mpr behind)⟩

end Overrides

end Tables

namespace Store

open Tables (SetsDay Unlooped)

/-- What can be done with one day of an event. -/
inductive DayChange
  | cancel
  | restore
  | modify (title : Option Text) (start finish : Option Moment)
  | move (start finish : Option Moment)

namespace DayChange

/-- The override the day is to have, with the id of the event that stands in. -/
def flag? (day : Date) (child : Option Int) : DayChange → Option Override
  | cancel => some ⟨day, .cancelled, none⟩
  | restore => none
  | modify .. => some ⟨day, .modified, child.map decimalInt⟩
  | move .. => some ⟨day, .moved, child.map decimalInt⟩

def toCall (id : Int) (day : Date) : DayChange → Call
  | cancel => .cancel id day
  | restore => .restore id day
  | modify title start finish => .modify id day title start finish
  | move start finish => .move id day start finish

end DayChange

/-- Changes one day; the answer is the id of the event that stands in, where one does. -/
def change (c : Conditions) (id : Int) (day : Date) : DayChange → StoreAction (Option Int)
  | .cancel => do
    cancelOccurrence c id day
    return none
  | .restore => do
    let _ ← restoreOccurrence c id day
    return none
  | .modify title start finish => return some (← modifyOccurrence c id day title start finish)
  | .move start finish => return some (← moveOccurrence c id day start finish)

variable {s s' : Store} {c : Conditions} {id : Int} {day : Date} {what : DayChange}
  {child : Option Int}

/-- A change that succeeds leaves what the call of it leaves. -/
theorem after_toCall (changed : s.call (change c id day what) = (.ok child, s')) :
    s' = s.after c (what.toCall id day) := by
  cases what <;>
    obtain ⟨_, between, first, rest⟩ := call_bind_eq_ok changed <;>
    cases rest <;>
    exact (congrArg Prod.snd first).symm

/-- An override that was put found the event. -/
theorem call_putException_eq_ok {o : Override} {u : Unit}
    (h : s.call (putException c id o) = (.ok u, s')) :
    (∃ e, s.tables.read c.standpoint id = .ok e)
      ∧ s.tables.replacing id o = .ok (s'.tables, u) := by
  cases read : s.tables.read c.standpoint id with
  | error fault =>
      rw [putException, s.call_of_unread read] at h
      cases h
  | ok e =>
      obtain ⟨notes, outcome⟩ := s.call_putException read o
      obtain ⟨t, put, rfl⟩ := settle_eq_ok (outcome.symm.trans h)
      exact ⟨⟨e, rfl⟩, put⟩

/-- An event that was put in the place of a day is there, between the moments it was to have. -/
theorem setsDay_of_override {kind : OverrideKind} {title : Option Text} {start finish : Option Moment}
    {n : Int} (unlooped : s.tables.Unlooped) (year : 1000 ≤ day.year)
    (done : s.call (overrideOccurrence c id day kind title start finish) = (.ok n, s')) :
    s.tables.SetsDay id day (some ⟨day, kind, some (decimalInt n)⟩) s'.tables
      ∧ ∃ e begins ends, s.tables.read c.standpoint id = .ok e
        ∧ e.standInSpan day start finish = .ok (begins, ends)
        ∧ ∃ row ∈ s'.tables.events, row.id = n ∧ row.start = begins.compactText
          ∧ row.finish = ends.compactText := by
  obtain ⟨notes, left⟩ := s.call_overrideOccurrence c id day kind title start finish
  have placed := left
  cases stood : s.tables.standing c id day title start finish with
  | error fault =>
      rw [stood] at placed
      cases placed.symm.trans done
  | ok result =>
      obtain ⟨t, new⟩ := result
      obtain ⟨row, rfl, gains, e, begins, ends, read, span, begun, ended⟩ :=
        unlooped.standing_span stood
      let o : Override := ⟨day, kind, some (decimalInt row.id)⟩
      obtain ⟨notes', left⟩ := call_of_standing unlooped kind stood
      cases outcome : t.replacing id o with
      | error fault =>
          rw [outcome] at left
          cases left.symm.trans done
      | ok result =>
          obtain ⟨t', u⟩ := result
          rw [outcome] at left
          cases left.symm.trans done
          have added := gains.unlooped unlooped
          have sets := @Tables.setsDay_put _ _ _ o (some row.id) _ added year gains.fits rfl outcome
          have written := @Tables.putException_of_put _ _ _ (some row.id) o _ gains.fits rfl
            (Tables.replacing_eq_ok.mp outcome).2
          refine ⟨⟨?_, ?_, sets.onDay⟩, e, begins, ends, read, span, row, ?_, rfl, begun, ended⟩
          · exact fun a old => sets.kept a (gains.mem_iff.mpr (.inl old))
          · rw [gains.left] at sets
            exact sets.others
          · rw [(Tables.putException_eq_ok written).2.1]
            exact gains.row_mem_dropped unlooped

theorem setsDay_of_change (unlooped : s.tables.Unlooped) (year : 1000 ≤ day.year)
    (changed : s.call (change c id day what) = (.ok child, s')) :
    s.tables.SetsDay id day (what.flag? day child) s'.tables := by
  cases what with
  | cancel =>
      obtain ⟨u, _, put, rest⟩ := call_bind_eq_ok changed
      cases rest
      obtain ⟨-, made⟩ := call_putException_eq_ok put
      exact @Tables.setsDay_put _ _ _ ⟨day, .cancelled, none⟩ none _ unlooped year rfl rfl made
  | restore =>
      obtain ⟨there, _, removed, rest⟩ := call_bind_eq_ok changed
      cases rest
      cases read : s.tables.read c.standpoint id with
      | error fault =>
          rw [restoreOccurrence, s.call_of_unread read] at removed
          cases removed
      | ok e =>
          obtain ⟨_, outcome⟩ := s.call_restoreOccurrence read day
          obtain ⟨t, made, rfl⟩ := settle_eq_ok (outcome.symm.trans removed)
          obtain ⟨_, -, made⟩ := map_eq_ok.mp made
          cases made
          exact Tables.setsDay_removed unlooped day
  | modify title start finish =>
      obtain ⟨n, _, done, rest⟩ := call_bind_eq_ok changed
      cases rest
      exact (setsDay_of_override unlooped year done).1
  | move start finish =>
      obtain ⟨n, _, done, rest⟩ := call_bind_eq_ok changed
      cases rest
      exact (setsDay_of_override unlooped year done).1

end Store

end Recurrence
