import Recurrence.Proofs.Store.Continuing
import Recurrence.Proofs.Store.DayChange
import Recurrence.Proofs.Store.Fetching
import Recurrence.Proofs.Store.Readback

/-! Events that do not end before they start. A call writes down one pair of moments at most, and of all
others it leaves the texts alone, so rows that run forward stay so where that pair does. What is shown
of a row that runs forward runs forward. -/

namespace Recurrence

namespace Moment

variable {m a b : Moment}

/-- What a text tells of a moment is its clock in whole seconds. -/
theorem clockMicros_told (m : Moment) :
    m.told.clockMicros = m.clockMicros / microsPerSecond * microsPerSecond := by
  have fraction := m.clockMicros_mod_second
  have whole : m.told.clockMicros = m.clockMicros - m.time.micro := by
    simp only [clockMicros_eq, told, TimeOfDay.wholeSecond, TimeOfDay.micros]
    omega
  simp only [microsPerSecond] at *
  omega

theorem told_mono (h : a.clockMicros ≤ b.clockMicros) : a.told.clockMicros ≤ b.told.clockMicros := by
  rw [clockMicros_told, clockMicros_told]
  exact Int.mul_le_mul_of_nonneg_right (Int.ediv_le_ediv (by decide) h) (by decide)

/-- What lasts some time from a start of the year 1000 or later does not end before, as texts tell it. -/
theorem order_of_lasts {micros : Int} (lasting : 0 ≤ micros)
    (lasts : b.clockMicros = a.clockMicros + micros) (late : 1000 ≤ a.date.year) :
    (1000 ≤ a.date.year ∧ 1000 ≤ b.date.year) ∧ ¬ b.told.clockMicros < a.told.clockMicros := by
  have after : a.clockMicros ≤ b.clockMicros := by omega
  have years : a.date.year ≤ b.date.year := Date.year_le_of_le (date_le_of_clockMicros after)
  exact ⟨⟨late, Nat.le_trans late years⟩, Int.not_lt.mpr (told_mono after)⟩

end Moment

/-- The row tells a start, and an end that is not before it. -/
def EventRow.IsForward (row : EventRow) : Prop :=
  ∃ begins ends, StoredMoment.read row.start = .ok begins ∧ StoredMoment.read row.finish = .ok ends
    ∧ begins.notAfter ends = .ok true

/-- The texts of two moments of the year 1000 or later run forward where the moments do, to the second. -/
theorem EventRow.isForward_iff {row : EventRow} {begins ends : Moment}
    (start : row.start = begins.compactText) (finish : row.finish = ends.compactText)
    (late : 1000 ≤ begins.date.year ∧ 1000 ≤ ends.date.year) :
    row.IsForward ↔ begins.told.clockMicros ≤ ends.told.clockMicros := by
  have first : StoredMoment.read row.start = .ok begins.told :=
    start ▸ StoredMoment.read_compactText late.1
  have last : StoredMoment.read row.finish = .ok ends.told :=
    finish ▸ StoredMoment.read_compactText late.2
  have order : begins.told.notAfter ends.told
      = .ok (decide (begins.told.clockMicros ≤ ends.told.clockMicros)) := Moment.notAfter_of_naive rfl rfl
  constructor
  · rintro ⟨_, _, first', last', forward⟩
    cases first.symm.trans first'
    cases last.symm.trans last'
    exact of_decide_eq_true (Except.ok.inj (order.symm.trans forward))
  · intro forward
    exact ⟨_, _, first, last, order.trans (congrArg Except.ok (decide_eq_true forward))⟩

namespace Tables

/-- No event ends before it starts. -/
def IsForward (t : Tables) : Prop := ∀ row ∈ t.events, row.IsForward

/-- No occurrence that is fetched ends before it starts. -/
def ShowsForward (t : Tables) : Prop :=
  ∀ c id first last listed told, t.occurrences c id first last = .ok (listed, told) →
    ∀ o ∈ listed, o.start.notAfter o.finish = .ok true

variable {t : Tables} {here : DateText.Standpoint} {id : Int} {e : Event}

theorem IsForward.of_read (h : t.IsForward) (read : t.read here id = .ok e) :
    e.start.clockMicros ≤ e.finish.clockMicros := by
  have naive := offset_of_read read
  obtain ⟨key, -, read⟩ := bind_eq_ok.mp read
  split at read
  · cases read
  · rename_i row found
    obtain ⟨begins, ends, first, last, forward⟩ := h row (event?_eq_some found).1
    rw [Event.ofRow, first, ok_bind, last, ok_bind] at read
    obtain ⟨_, -, read⟩ := bind_eq_ok.mp read
    cases read
    rw [Moment.notAfter_of_naive naive.1 naive.2] at forward
    exact of_decide_eq_true (Except.ok.inj forward)

/-- Every occurrence lasts as long as the event that it is made of. -/
theorem IsForward.shows (h : t.IsForward) : t.ShowsForward := by
  intro c id first last listed told shown o member
  obtain ⟨e, read, rest⟩ := bind_eq_ok.mp shown
  obtain ⟨recurring, ruled, rest⟩ := bind_eq_ok.mp rest
  cases recurring with
  | none =>
      cases rest
      cases member
  | some rule =>
      have naive := offset_of_read read
      have forward := h.of_read read
      obtain ⟨-, os, -, all, expanded, within, -⟩ := (occurrences_eq_ok read ruled).mp shown
      obtain ⟨horizon, -, slots⟩ := Series.isSlot_of_expand naive.1 naive.2 expanded
      obtain ⟨day, -, slot⟩ := Series.exists_day_of_slots slots o (mem_of_occurrencesWithin within o member)
      have begins : o.start.offset = none := (congrArg Moment.offset slot.start).trans naive.1
      have lasts := slot.finish
      dsimp only at lasts
      rw [Moment.notAfter_of_naive begins (slot.offset.trans naive.1), decide_eq_true]
      omega

end Tables

/-! The moments that a call writes down. -/

namespace Event

variable {e : Event} {day : Date} {begins ends : Moment} {start finish : Option Moment}

theorem lasts_of_slot (naive : e.start.offset = none ∧ e.finish.offset = none)
    (h : e.slot day = .ok (begins, ends)) :
    begins = { e.start with date := day }
      ∧ ends.clockMicros = begins.clockMicros + (e.finish.clockMicros - e.start.clockMicros) := by
  obtain ⟨starts, sum⟩ := slot_eq_ok naive.1 naive.2 h
  exact ⟨starts, (Moment.add_eq_ok sum).2⟩

/-- What stands in begins where it is told to, or in the slot of the day. It ends where it is told to, or
after as long as the event lasts. -/
theorem standInSpan_eq_ok (naive : e.start.offset = none ∧ e.finish.offset = none)
    (h : e.standInSpan day start finish = .ok (begins, ends)) :
    begins = start.getD { e.start with date := day }
      ∧ match finish with
        | some m => ends = m
        | none => ends.clockMicros = begins.clockMicros + (e.finish.clockMicros - e.start.clockMicros) := by
  obtain ⟨⟨slotStart, slotFinish⟩, placed, h⟩ := bind_eq_ok.mp h
  obtain ⟨starts, sum⟩ := slot_eq_ok naive.1 naive.2 placed
  have bare : slotStart.offset = none := (congrArg Moment.offset starts).trans naive.1
  cases finish with
  | some m =>
      cases h
      exact ⟨congrArg start.getD starts, rfl⟩
  | none =>
      obtain ⟨offset, clock⟩ := Moment.add_eq_ok sum
      obtain ⟨duration, apart, h⟩ := bind_eq_ok.mp h
      obtain ⟨_, sum', h⟩ := bind_eq_ok.mp h
      cases h
      rw [Moment.since_of_naive (offset.trans bare) bare] at apart
      cases apart
      refine ⟨congrArg start.getD starts, (Moment.add_eq_ok sum').2.trans ?_⟩
      dsimp only at clock ⊢
      omega

/-- Where an event runs forward, what stands in for it ends before it starts only where it is told to. -/
theorem order_of_standInSpan (naive : e.start.offset = none ∧ e.finish.offset = none)
    (forward : e.start.clockMicros ≤ e.finish.clockMicros)
    (h : e.standInSpan day start finish = .ok (begins, ends))
    (late : 1000 ≤ ((start.map Moment.date).getD day).year)
    (late' : ∀ m, finish = some m → 1000 ≤ m.date.year) :
    (1000 ≤ begins.date.year ∧ 1000 ≤ ends.date.year)
      ∧ (ends.told.clockMicros < begins.told.clockMicros
        ↔ ∃ m, finish = some m
          ∧ m.told.clockMicros < (start.getD { e.start with date := day }).told.clockMicros) := by
  obtain ⟨rfl, lasts⟩ := standInSpan_eq_ok naive h
  have year : 1000 ≤ (start.getD { e.start with date := day }).date.year := by
    cases start with
    | none => exact late
    | some m => exact late
  cases finish with
  | some m =>
      obtain rfl : ends = m := lasts
      refine ⟨⟨year, late' ends rfl⟩, fun early => ⟨ends, rfl, early⟩, ?_⟩
      rintro ⟨_, ⟨⟩, early⟩
      exact early
  | none =>
      obtain ⟨years, order⟩ := Moment.order_of_lasts (Int.sub_nonneg_of_le forward) lasts year
      exact ⟨years, iff_of_false order fun ⟨_, absent, _⟩ => nomatch absent⟩

end Event

namespace Store

open Tables (Unlooped)

variable {s : Store} {c : Conditions}

/-- A call that writes down an end that is not before the start leaves rows that run forward. -/
theorem Holds.forward (held : s.Holds Tables.IsForward) (c : Conditions) (call : Call)
    (late : ∀ begins ends, call.span? s c = some (begins, ends) →
      1000 ≤ begins.date.year ∧ 1000 ≤ ends.date.year)
    (forward : ∀ begins ends, call.span? s c = some (begins, ends) →
      begins.told.clockMicros ≤ ends.told.clockMicros) : (s.after c call).Holds Tables.IsForward := by
  apply held.after_span c call
  · exact fun w _ quiet => Write.keeps_rows quiet fun _ _ _ _ _ forward => forward
  · intro t t' title begins ends rule parent id h _ span made _
    obtain ⟨columns, row, -, -, -, -, new, rfl⟩ := Tables.added_eq_ok made
    obtain ⟨-, -, start, finish⟩ := Tables.newRow_eq_ok new
    intro e member
    rcases List.mem_append.mp member with old | fresh
    · exact h e old
    · rw [List.mem_singleton.mp fresh]
      exact (EventRow.isForward_iff start finish (late _ _ span)).mpr (forward _ _ span)

/-- Where an override of an occurrence changes the events at all, the event that stands in is one of
them. -/
theorem exists_standIn (unlooped : s.tables.Unlooped) (level : s.committed = s.tables) {id : Int}
    {day : Date} {kind : OverrideKind} {title : Option Text} {start finish : Option Moment}
    (changed : (s.call (overrideOccurrence c id day kind title start finish)).2.committed.events
      ≠ s.tables.events) :
    ∃ e begins ends, s.tables.read c.standpoint id = .ok e
      ∧ e.standInSpan day start finish = .ok (begins, ends)
      ∧ ∃ row ∈ (s.call (overrideOccurrence c id day kind title start finish)).2.committed.events,
        row.start = begins.compactText ∧ row.finish = ends.compactText := by
  cases stood : s.tables.standing c id day title start finish with
  | error fault =>
      obtain ⟨notes, left⟩ := s.call_overrideOccurrence c id day kind title start finish
      rw [left, stood] at changed
      exact absurd (congrArg Tables.events level) changed
  | ok result =>
      obtain ⟨t, child⟩ := result
      obtain ⟨row, rfl, gains, e, begins, ends, read, span, begun, ended⟩ :=
        unlooped.standing_span stood
      obtain ⟨notes, left⟩ := call_of_standing unlooped kind stood
      refine ⟨e, begins, ends, read, span, row, ?_, begun, ended⟩
      rw [left]
      let o : Override := ⟨day, kind, some (decimalInt row.id)⟩
      cases outcome : t.replacing id o with
      | error fault => exact gains.mem_iff.mpr (.inr rfl)
      | ok result =>
          have put := (Tables.replacing_eq_ok.mp outcome).2
          have written := @Tables.putException_of_put _ _ _ (some row.id) o _ gains.fits rfl put
          change row ∈ result.1.events
          rw [(Tables.putException_eq_ok written).2.1]
          exact gains.row_mem_dropped unlooped

end Store

end Recurrence
