import Recurrence.Proofs.Store.Chain

/-! Calls that fail. Most fail before their first write and leave the tables as they were. Those that
drop the stand-in of a day or delete a series are cut off where that goes too deep, and those that
put an override where no id is left for it: they leave what they have written by then. -/

namespace Recurrence

namespace Tables

variable {t t' : Tables} {id : Int} {day : Date}

/-- No id is left for another exception. -/
def IsUsedUp (t : Tables) : Prop := fitsWord (t.lastException + 1) = false

/-- The stand-in of a day is too deep to be dropped whole. -/
def IsDeepOn (t : Tables) (id : Int) (day : Date) : Prop :=
  ∃ child, t.StandsIn id day none child ∧ t.IsDeep child.id

/-- An override that names an id that can be stored, or none, takes the place of a stand-in unless
that is too deep or no id is left. -/
theorem Unlooped.fails_replacing {standIn : Option Int} {o : Override} (h : t.Unlooped)
    (there : t.hasEvent id = true) (fits : standIn.all fitsWord = true)
    (names : o.replacement = standIn.map decimalInt) :
    Fails (t.replacing id o)
      ↔ (∃ child, t.StandsIn id o.date o.replacement child ∧ t.IsDeep child.id) ∨ t.IsUsedUp := by
  have storable : ¬ o.Unstorable := by
    rw [Override.unstorable_iff, standIn_eq fits names, ok_bind, storedInteger?_eq_ok.mpr ⟨fits, rfl⟩]
    exact not_fails_ok _
  have kept : ¬ (t.dropped id o.date o.replacement).hasEvent id = false := by
    obtain ⟨e, member, same⟩ := hasEvent_iff.mp there
    exact mt (hasEvent_eq_false_iff.mp · e (h.mem_dropped.1 e member same)) (not_not.mpr same)
  rw [h.nested.fails_replacing, or_iff_right storable, or_iff_left kept, IsUsedUp]

/-- The same for an override that names what was added to stand in. -/
theorem GainsChild.fails_replacing {row : EventRow} {kind : OverrideKind} (h : t.Unlooped)
    (gains : t.GainsChild id row t') :
    Fails (t'.replacing id { date := day, kind, replacement := some (decimalInt row.id) })
      ↔ t.IsDeepOn id day ∨ t.IsUsedUp := by
  obtain ⟨owner, member, same⟩ := hasEvent_iff.mp gains.owner
  have there : t'.hasEvent id = true := hasEvent_iff.mpr ⟨owner, gains.mem_iff.mpr (.inl member), same⟩
  have count : t'.IsUsedUp ↔ t.IsUsedUp := by
    rw [gains.left]
    exact .rfl
  rw [@Unlooped.fails_replacing t' id (some row.id) _ (gains.unlooped h) there gains.fits rfl, count]
  apply or_congr_left
  apply exists_congr
  intro old
  rw [gains.standsIn_iff h]
  exact and_congr_right fun stands => gains.isDeep_iff h stands.member stands.owned

end Tables

namespace Store

open Tables (Unlooped)

variable {α : Type} {s : Store} {c : Conditions} {id : Int} {day : Date}

/-- What a call leaves that fails: other rows if it is cut off, otherwise the tables as they were, the
ones at hand and the ones last committed. -/
structure FailsBy (s : Store) (cut : Prop) (left : Except Fault α × Store) : Prop where
  changed : cut → Fails left.1 ∧ left.2.tables.rows ≠ s.tables.rows
  unchanged : Fails left.1 → ¬ cut → left.2.tables = s.tables ∧ left.2.committed = s.committed

/-- A call that begins by reading an event fails in another way only where the event is read. -/
theorem failsBy_getEvent {cut : Prop} {f : Event → StoreAction α}
    (rest : ∀ e, s.tables.read c.standpoint id = .ok e →
      s.FailsBy cut (s.call (getEvent c id >>= f))) :
    s.FailsBy ((∃ e, s.tables.read c.standpoint id = .ok e) ∧ cut) (s.call (getEvent c id >>= f)) := by
  cases read : s.tables.read c.standpoint id with
  | error fault =>
      rw [s.call_of_unread read f]
      exact ⟨fun ⟨⟨_, absent⟩, _⟩ => (nomatch absent), fun _ _ => ⟨rfl, rfl⟩⟩
  | ok e =>
      have last := rest e read
      exact ⟨fun both => last.changed both.2,
        fun failed uncut => last.unchanged failed fun cut => uncut ⟨⟨e, rfl⟩, cut⟩⟩

/-- A call that has dropped the stand-in of a day and fails is cut off if there was one. -/
theorem failsBy_of_dropping {left : Except Fault α × Store} {notes : List StoreNote}
    {keep : Option Text} {outcome : Except Fault (Tables × α)}
    (settled : left = (s.dropping id day keep).settle notes outcome) :
    s.FailsBy ((∃ child, s.tables.StandsIn id day keep child) ∧ Fails outcome) left := by
  rw [settled]
  cases outcome with
  | ok result =>
      exact ⟨fun both => absurd both.2 (not_fails_ok _), fun failed => absurd failed (not_fails_ok _)⟩
  | error fault =>
      refine ⟨fun both => ⟨⟨fault, rfl⟩, Tables.rows_dropped_ne.mpr both.1⟩, fun _ uncut => ⟨?_, rfl⟩⟩
      have none : ∀ child, ¬ s.tables.StandsIn id day keep child :=
        fun child stands => uncut ⟨⟨child, stands⟩, fault, rfl⟩
      exact congrArg Deletion.left (Tables.dropping_of_none none)

theorem FailsBy.congr {cut cut' : Prop} {left : Except Fault α × Store} (h : s.FailsBy cut left)
    (same : cut ↔ cut') : s.FailsBy cut' left := propext same ▸ h

section Calls

variable (day : Date)

theorem fails_removing {t : Tables} (nested : t.Nested) :
    Fails (t.removing id day) ↔ t.IsDeepOn id day := by
  rw [Tables.removing, fails_map, Deletion.fails_ending, nested.isWhole_dropping_eq_false,
    Tables.IsDeepOn]

theorem failsBy_removing {left : Except Fault Bool × Store} {notes : List StoreNote}
    (nested : s.tables.Nested)
    (settled : left = (s.dropping id day none).settle notes (s.tables.removing id day)) :
    s.FailsBy (s.tables.IsDeepOn id day) left := by
  apply (failsBy_of_dropping settled).congr
  rw [fails_removing day nested]
  exact and_iff_right_of_imp fun ⟨child, stands, _⟩ => ⟨child, stands⟩

theorem failsBy_restoreOccurrence (nested : s.tables.Nested) :
    s.FailsBy ((∃ e, s.tables.read c.standpoint id = .ok e) ∧ s.tables.IsDeepOn id day)
      (s.call (restoreOccurrence c id day)) := by
  apply failsBy_getEvent
  intro e read
  obtain ⟨notes, settled⟩ := s.call_restoreOccurrence read day
  exact failsBy_removing day nested settled

theorem failsBy_cancelOccurrence (unlooped : s.tables.Unlooped) :
    s.FailsBy ((∃ e, s.tables.read c.standpoint id = .ok e) ∧ ∃ child,
        s.tables.StandsIn id day none child ∧ (s.tables.IsDeep child.id ∨ s.tables.IsUsedUp))
      (s.call (cancelOccurrence c id day)) := by
  apply failsBy_getEvent
  intro e read
  obtain ⟨row, there, same, -⟩ := unlooped.nested.sound.read_eq_ok.mp read
  obtain ⟨notes, settled⟩ := s.call_putException read { date := day, kind := .cancelled }
  apply (failsBy_of_dropping settled).congr
  rw [@Unlooped.fails_replacing s.tables id none _ unlooped
    (Tables.hasEvent_iff.mpr ⟨row, there, same⟩) rfl rfl]
  constructor
  · rintro ⟨⟨child, stands⟩, ⟨other, also, deep⟩ | full⟩
    · exact ⟨other, also, .inl deep⟩
    · exact ⟨child, stands, .inr full⟩
  · rintro ⟨child, stands, deep | full⟩
    · exact ⟨⟨child, stands⟩, .inl ⟨child, stands, deep⟩⟩
    · exact ⟨⟨child, stands⟩, .inr full⟩

theorem failsBy_overrideOccurrence (unlooped : s.tables.Unlooped) (kind : OverrideKind)
    (title : Option Text) (start finish : Option Moment) :
    s.FailsBy ((∃ added, s.tables.standing c id day title start finish = .ok added)
        ∧ (s.tables.IsDeepOn id day ∨ s.tables.IsUsedUp))
      (s.call (overrideOccurrence c id day kind title start finish)) := by
  cases made : s.tables.standing c id day title start finish with
  | error fault =>
      obtain ⟨notes, left⟩ := s.call_overrideOccurrence c id day kind title start finish
      rw [left, made]
      exact ⟨fun ⟨⟨_, absent⟩, _⟩ => (nomatch absent), fun _ _ => ⟨rfl, rfl⟩⟩
  | ok added =>
      obtain ⟨t, child⟩ := added
      obtain ⟨row, rfl, gains⟩ := unlooped.standing made
      obtain ⟨notes, left⟩ := call_of_standing unlooped kind made
      have fails := @Tables.GainsChild.fails_replacing s.tables t id day row kind unlooped gains
      rw [left]
      cases outcome : t.replacing id { date := day, kind, replacement := some (decimalInt row.id) } with
      | ok result =>
          rw [outcome] at fails
          exact ⟨fun both => absurd (fails.mpr both.2) (not_fails_ok _),
            fun failed => absurd failed (not_fails_ok _)⟩
      | error fault =>
          rw [outcome] at fails
          refine ⟨fun _ => ⟨⟨fault, rfl⟩, ?_⟩,
            fun _ uncut => absurd ⟨⟨_, rfl⟩, fails.mp ⟨fault, rfl⟩⟩ uncut⟩
          -- The event that was added is left.
          intro same
          have events : (t.dropped id day (some (decimalInt row.id))).events = s.tables.events :=
            congrArg Prod.fst same
          have kept := @Tables.GainsChild.row_mem_dropped s.tables t id day row unlooped gains
          rw [events] at kept
          exact Int.lt_irrefl row.id (gains.lt_row unlooped kept)

theorem failsBy_deleteSeries (nested : s.tables.Nested) :
    s.FailsBy ((∃ e, s.tables.read c.standpoint id = .ok e)
        ∧ ∃ e ∈ s.tables.events, e.parent = some id ∧ s.tables.IsDeep e.id)
      (s.call (deleteSeries c id)) := by
  apply failsBy_getEvent
  intro e read
  change s.FailsBy _ (s.call (deleteSeries c id))
  have broken := @Tables.Nested.isWhole_deleting_eq_false s.tables id nested
  obtain ⟨notes, left⟩ := s.call_deleteSeries read
  rw [left]
  cases whole : (s.tables.deleting id).isWhole with
  | true =>
      rw [@Deletion.ending_eq_ok _ () |>.mpr whole]
      refine ⟨fun deep => absurd (broken.mpr deep) (Bool.not_eq_false _ ▸ whole),
        fun failed => absurd failed (not_fails_ok _)⟩
  | false =>
      obtain ⟨fault, ends⟩ := Deletion.fails_ending.mpr whole
      rw [ends]
      refine ⟨fun ⟨child, member, owned, _⟩ => ⟨⟨fault, rfl⟩, ?_⟩,
        fun _ uncut => absurd (broken.mp whole) uncut⟩
      obtain ⟨a, there, gone⟩ := Tables.exists_absent_deleted member owned
      intro same
      have events : (s.tables.deleted id).events = s.tables.events := congrArg Prod.fst same
      exact Tables.hasEvent_eq_false_iff.mp gone a (events.symm ▸ there) rfl

end Calls

/-- What keeps a call from coming to its end once it has begun to write: a stand-in or a child too deep to
be dropped whole, or that no id is left for the exception that is to take the place of another. -/
def CutsOff (s : Store) (c : Conditions) : Call → Prop
  | .remove id day => fitsWord id = true ∧ s.tables.IsDeepOn id day
  | .modify id day title start finish =>
    (∃ added, s.tables.standing c id day title start finish = .ok added)
      ∧ (s.tables.IsDeepOn id day ∨ s.tables.IsUsedUp)
  | .move id day start finish =>
    (∃ added, s.tables.standing c id day none start finish = .ok added)
      ∧ (s.tables.IsDeepOn id day ∨ s.tables.IsUsedUp)
  | .cancel id day =>
    (∃ e, s.tables.read c.standpoint id = .ok e)
      ∧ ∃ child, s.tables.StandsIn id day none child
        ∧ (s.tables.IsDeep child.id ∨ s.tables.IsUsedUp)
  | .restore id day =>
    (∃ e, s.tables.read c.standpoint id = .ok e) ∧ s.tables.IsDeepOn id day
  | .delete id =>
    (∃ e, s.tables.read c.standpoint id = .ok e)
      ∧ ∃ e ∈ s.tables.events, e.parent = some id ∧ s.tables.IsDeep e.id
  | _ => False

end Store

end Recurrence
