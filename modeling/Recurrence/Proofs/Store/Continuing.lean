import Recurrence.Proofs.Store.OnDay

/-! What a split continues. The new series has the days the old one would have had, and those that
were cancelled: its rule is counted from the day of the split, and exceptions stay behind. -/

namespace Recurrence

namespace Event

variable {e : Event} {day : Date} {start finish : Moment}

theorem slot_eq_ok (hs : e.start.offset = none) (hf : e.finish.offset = none)
    (h : e.slot day = .ok (start, finish)) :
    start = { e.start with date := day }
      ∧ start.add ⟨e.finish.clockMicros - e.start.clockMicros⟩ = .ok finish := by
  rw [slot, Moment.since_of_naive hf hs, ok_bind] at h
  obtain ⟨_, sum, h⟩ := bind_eq_ok.mp h
  cases h
  exact ⟨rfl, sum⟩

/-- An event that was read back has moments that a text can hold. -/
theorem isStorable_of_ofRow {row : EventRow} {begins ends : Moment} {rule : Option Rule}
    {here : DateText.Standpoint} (records : row.Records begins ends rule)
    (read : Event.ofRow here row = .ok e) : e.start.IsStorable ∧ e.finish.IsStorable := by
  obtain ⟨start, first, read⟩ := bind_eq_ok.mp read
  obtain ⟨finish, last, read⟩ := bind_eq_ok.mp read
  obtain ⟨endDate, -, read⟩ := bind_eq_ok.mp read
  cases read
  rw [records.start] at first
  rw [records.finish] at last
  exact ⟨StoredMoment.isStorable_of_read first, StoredMoment.isStorable_of_read last⟩

theorem isStorable_slot (hs : e.start.IsStorable) (hf : e.finish.IsStorable)
    (ahead : e.start.date ≤ day) (h : e.slot day = .ok (start, finish)) :
    start.IsStorable ∧ finish.IsStorable := by
  obtain ⟨rfl, sum⟩ := slot_eq_ok hs.offset hf.offset h
  obtain ⟨offset, clock⟩ := Moment.add_eq_ok sum
  refine ⟨⟨hs.offset, hs.whole, Nat.le_trans hs.year (Date.year_le_of_le ahead)⟩, ?_⟩
  refine ⟨offset.trans hs.offset, ?_, ?_⟩
  · have seconds := finish.clockMicros_mod_second
    have slotStart := ({ e.start with date := day } : Moment).clockMicros_mod_second
    have starts := e.start.clockMicros_mod_second
    have ends := e.finish.clockMicros_mod_second
    rw [hs.whole] at starts slotStart
    rw [hf.whole] at ends
    simp only [microsPerSecond] at *
    omega
  · have place : (finish.date.ordinal : Int) = e.endDay day := by
      rw [← finish.clockMicros_div, clock]
      rfl
    have late := endDay_mono (e := e) ahead
    rw [endDay_start, ← place] at late
    exact Nat.le_trans hf.year (Date.year_le_of_le (Int.ofNat_le.mp late))

end Event

namespace Tables

theorem Sound.overrides_of_fresh {t : Tables} {id : Int} (h : t.Sound) (fits : fitsWord id = true)
    (fresh : t.lastEvent < id) (here : DateText.Standpoint) : t.overrides here id = .ok [] := by
  have none : t.exceptionsOf id = [] := by
    apply List.eq_nil_iff_forall_not_mem.mpr
    intro x member
    obtain ⟨there, owned⟩ := Stores.mem_exceptionsOf.mp member
    exact h.parent_ne_of_fresh fresh x there owned
  rw [overrides, storedInteger_eq_ok.mpr ⟨fits, rfl⟩, ok_bind, none]
  rfl

end Tables

namespace Store

/-- An event goes on with another one from a day on: at its time of day, as long as it lasts, with a
rule and without overrides. -/
structure Continues (s : Store) (here : DateText.Standpoint) (id : Int) (rule : Rule) (day : Date)
    (e next : Event) : Prop where
  read : s.tables.read here id = .ok next
  start : next.start = { e.start with date := day }
  offset : next.finish.offset = none
  endDay : ∀ d, next.endDay d = e.endDay d
  recurring : next.rule? here = .ok (some rule)
  alone : s.tables.overrides here id = .ok []

section Split

variable {s s' : Store} {c after : Conditions} {id new : Int} {e : Event} {old : Rule} {day : Date}
  {title : Option Text} {today : Option Date}

/-- The rule of a series that could be split is plain if it has the day of the split. -/
theorem isPlain_of_check {text : Text} (recurring : e.rule? c.standpoint = .ok (some old))
    (storable : e.start.IsStorable) (member : old.occursOn e.start.date day = true)
    (within : old.ends.all (fun x => decide (day ≤ x.date)) = true)
    (checked : old.check (today.getD c.today) = .ok ()) (written : old.write = .ok text) :
    old.IsPlain := by
  have passes := Rule.passes_of_check checked
  apply Rule.isPlain_of_passes passes written (Event.isSome_interval_of_rule? recurring)
  intro x given
  have ends := passes.ends
  rw [Rule.endsBefore, given] at ends
  rw [given, Option.all_some, decide_eq_true_eq] at within
  cases x with
  | moment m => cases ends
  | day last =>
      refine ⟨last, rfl, ?_⟩
      have early := Date.year_le_of_le (Rule.le_of_occursOn member)
      have late := Date.year_le_of_le within
      exact Nat.le_trans storable.year (Nat.le_trans early late)

theorem exists_continues (reachable : s.Reachable) (read : s.tables.read c.standpoint id = .ok e)
    (recurring : e.rule? c.standpoint = .ok (some old)) (uncounted : old.count = none)
    (member : old.occursOn e.start.date day = true)
    (within : old.ends.all (fun x => decide (day ≤ x.date)) = true)
    (split : s.call (splitSeries c id day none title today) = (.ok new, s'))
    (later : DateText.Standpoint) :
    (∃ text, old.write = .ok text) ∧ ∃ next, s'.Continues later new old day e next := by
  have sound := reachable.sound
  have legible : s.Holds (Tables.Legible False) := reachable.legible fun absurd => absurd.elim
  have sound' := sound_of_splitSeries sound split
  obtain ⟨event, told, fresh, last, ended, read', recurring', given, checked, -, -, t, notes, second, rfl⟩ :=
    splitSeries_eq_ok split
  obtain rfl : e = event := Except.ok.inj (read.symm.trans read')
  obtain rfl : old = told := Option.some.inj (Except.ok.inj (recurring.symm.trans recurring'))
  have same : fresh = old := by
    rw [← given, ← uncounted]
    rfl
  subst same
  -- The moments of the old event could be written, so the slot of the day can, and so can the rule.
  obtain ⟨row, there, rfl, reading⟩ := sound.2.read_eq_ok.mp read
  obtain ⟨begins, ends, _, records, -⟩ := legible.2.records row there
  obtain ⟨hs, hf⟩ := Event.isStorable_of_ofRow records reading
  obtain ⟨⟨start, finish⟩, placed, added⟩ := bind_eq_ok.mp second
  obtain ⟨newRow, rfl, tells, number, left⟩ := Tables.exists_tells_of_added added
  obtain ⟨begin', sum⟩ := Event.slot_eq_ok hs.offset hf.offset placed
  obtain ⟨hs', hf'⟩ := Event.isStorable_slot hs hf (Rule.le_of_occursOn member) placed
  obtain ⟨text, written, -⟩ := tells.ruleText
  have plain := isPlain_of_check recurring hs member within checked written
  obtain ⟨next, nextRead, told, ruled⟩ := Event.ofRow_of_tells tells hs' hf' plain later
  have there' : newRow ∈ t.events := by
    rw [left]
    exact List.mem_append_right _ List.mem_cons_self
  refine ⟨⟨text, written⟩, next, ?_⟩
  exact {
    read := sound'.2.read_eq_ok.mpr ⟨newRow, there', rfl, nextRead⟩
    start := told.start.trans begin'
    offset := told.finish ▸ hf'.offset
    endDay := by
      intro d
      have long : finish.clockMicros - start.clockMicros = e.finish.clockMicros - e.start.clockMicros := by
        rw [(Moment.add_eq_ok sum).2]
        dsimp only
        omega
      rw [Event.endDay, Event.endDay, told.start, told.finish, long, begin']
    recurring := ruled later
    alone := by
      have fresh : s.tables.lastEvent < newRow.id := by
        rw [number, Tables.lastEvent_updateEvent]
        omega
      rw [left]
      exact sound.2.overrides_of_fresh (sound'.2.fitsWord_id there') fresh later }

/-- A split without a new rule keeps the schedule from its day to the horizon of the old series: the
new series has an occurrence on a day where the old one had one, or a cancelled one, on that day. Where
a weekly rule passes over weeks and lists weekdays, the weeks are counted from the day of the split, and
for a day in front of its weekday the day a week earlier counts, unless the rule ends between the two. -/
theorem hasOccurrence_of_splitSeries {d horizon horizon' : Date} {overrides : List Override}
    (reachable : s.Reachable) (read : (s.call (getEvent c id)).1 = .ok e)
    (recurring : e.rule? c.standpoint = .ok (some old)) (uncounted : old.count = none)
    (overridden : (s.call (getExceptions c id)).1 = .ok overrides)
    (member : old.occursOn e.start.date day = true)
    (within : old.ends.all (fun x => decide (day ≤ x.date)) = true)
    (split : s.call (splitSeries c id day none title today) = (.ok new, s'))
    (bounds : after.bounds = c.bounds) (reaches : old.ReachesHorizon e.start.date c.bounds horizon)
    (reaches' : old.ReachesHorizon day c.bounds horizon')
    (behind : day ≤ d) (upTo : d ≤ horizon) (inCalendar : d.ordinal < lastOrdinal)
    (slot : e.endDay d ≤ lastOrdinal) :
    ∃ earlier : Date, earlier.ordinal + old.weekShift e.start.date day d = d.ordinal
      ∧ ∃ had, s.hasOccurrence c id earlier = .ok had
        ∧ s'.hasOccurrence after new d = .ok (old.ends.all (fun x => decide (d ≤ x.date))
          && (had || (old.occursOn e.start.date earlier
            && (Override.lastFor? overrides earlier).any Override.isCancelled))) := by
  rw [call_getEvent] at read
  rw [call_getExceptions] at overridden
  obtain ⟨⟨text, written⟩, next, continues⟩ :=
    exists_continues reachable read recurring uncounted member within split after.standpoint
  have naive : e.start.offset = none ∧ e.finish.offset = none := by
    obtain ⟨row, -, -, reading⟩ := reachable.sound.2.read_eq_ok.mp read
    exact Event.offset_of_ofRow reading
  have first := Rule.le_of_occursOn member
  obtain ⟨earlier, back⟩ := old.exists_earlier first behind
  have notLater : earlier ≤ d := by
    rw [Date.le_iff]
    omega
  have before : s.hasOccurrence c id earlier = _ :=
    hasOccurrence_eq read recurring uncounted naive overridden written reaches (Nat.le_trans notLater upTo)
      (Nat.lt_of_le_of_lt notLater inCalendar) (Int.le_trans (Event.endDay_mono notLater) slot)
  refine ⟨earlier, back, _, before, ?_⟩
  have start : next.start.date = day := congrArg Moment.date continues.start
  have naive' : next.start.offset = none ∧ next.finish.offset = none := by
    rw [continues.start]
    exact ⟨naive.1, continues.offset⟩
  have upTo' : d ≤ horizon' := Nat.le_trans upTo (Date.addYears_mono first reaches.years reaches'.years)
  have slot' : next.endDay d ≤ lastOrdinal := by
    rw [continues.endDay]
    exact slot
  rw [← bounds, ← start] at reaches'
  rw [hasOccurrence_eq continues.read continues.recurring uncounted naive' continues.alone written reaches'
    upTo' inCalendar slot', start, Rule.occursOn_rebased member behind back]
  apply congrArg Except.ok
  -- Both series ask the rule about the day, the new one from another anchor and without overrides.
  cases ended : old.ends.all fun x => decide (d ≤ x.date) with
  | false => rfl
  | true =>
      have notEnded : old.ends.all (fun x => decide (earlier ≤ x.date)) = true := by
        cases given : old.ends with
        | none => rfl
        | some x =>
            rw [given, Option.all_some, decide_eq_true_eq] at ended
            rw [Option.all_some, decide_eq_true_eq]
            exact Nat.le_trans notLater ended
      rw [notEnded]
      cases old.occursOn e.start.date earlier <;>
        cases (Override.lastFor? overrides earlier).any Override.isCancelled <;> rfl

end Split

def onAndOn : Rule := { twiceAFortnight with count := none, ends := none }

def onAndOnStore : Store :=
  (Store.after {} newYearsEve (.create (some ['a']) Series.everyOtherDay.start Series.everyOtherDay.finish
    onAndOn none)).after newYearsEve (.cancel 1 ⟨2024, 1, 17, by decide⟩)

theorem reachable_onAndOnStore : onAndOnStore.Reachable :=
  .call _ _ (.call _ _ .start trivial) trivial

theorem reachesHorizon_onAndOn :
    onAndOn.ReachesHorizon ⟨2024, 1, 1, by decide⟩ newYearsEve.bounds ⟨2026, 1, 1, by decide⟩
      ∧ onAndOn.ReachesHorizon ⟨2024, 1, 3, by decide⟩ newYearsEve.bounds ⟨2026, 1, 3, by decide⟩ :=
  ⟨⟨by decide +kernel, by decide +kernel⟩, ⟨by decide +kernel, by decide +kernel⟩⟩

/-- The 22nd is a day of the new series because the 15th was one of the old. -/
theorem hasOccurrence_of_splitSeries_onAndOn :
    let d : Date := ⟨2024, 1, 22, by decide⟩
    let earlier : Date := ⟨2024, 1, 15, by decide⟩
    let s := onAndOnStore
    let split := s.call (splitSeries newYearsEve 1 ⟨2024, 1, 3, by decide⟩ none none none)
    earlier.ordinal + onAndOn.weekShift ⟨2024, 1, 1, by decide⟩ ⟨2024, 1, 3, by decide⟩ d = d.ordinal
      ∧ s.hasOccurrence newYearsEve 1 earlier = .ok true
      ∧ split.1 = .ok 2 ∧ split.2.hasOccurrence newYearsEve 2 d = .ok true := by
  intro d earlier s split
  have fetched : (s.call (getEvent newYearsEve 1)).1.map
      (fun e => (e.start, e.finish, e.rule? newYearsEve.standpoint))
        = .ok (Series.everyOtherDay.start, Series.everyOtherDay.finish, .ok (some onAndOn)) := by
    decide +kernel
  have overridden : (s.call (getExceptions newYearsEve 1)).1
      = .ok [⟨⟨2024, 1, 17, by decide⟩, .cancelled, none⟩] := by
    decide +kernel
  have made : split.1 = .ok 2 := by decide +kernel
  have had : s.hasOccurrence newYearsEve 1 earlier = .ok true := by decide +kernel
  have shift : earlier.ordinal + onAndOn.weekShift Series.everyOtherDay.start.date ⟨2024, 1, 3, by decide⟩ d
      = d.ordinal := by
    decide
  have reachable : s.Reachable := reachable_onAndOnStore
  clear_value s
  have whole : s.call (splitSeries newYearsEve 1 ⟨2024, 1, 3, by decide⟩ none none none)
      = (.ok 2, split.2) := Prod.ext made rfl
  obtain ⟨e, read, told⟩ := map_eq_ok.mp fetched
  simp only [Prod.mk.injEq] at told
  obtain ⟨start, finish, recurring⟩ := told
  have slot : e.endDay d ≤ lastOrdinal := by
    rw [Event.endDay, start, finish]
    decide
  have anchor : e.start.date = Series.everyOtherDay.start.date := congrArg Moment.date start
  obtain ⟨earlier', back, had', before, afterwards⟩ :=
    @hasOccurrence_of_splitSeries s split.2 newYearsEve newYearsEve 1 2 e onAndOn
      ⟨2024, 1, 3, by decide⟩ none none d ⟨2026, 1, 1, by decide⟩ ⟨2026, 1, 3, by decide⟩ _
      reachable read recurring rfl overridden (by rw [anchor]; decide) rfl whole rfl
      (by rw [anchor]; exact reachesHorizon_onAndOn.1) reachesHorizon_onAndOn.2 (by decide) (by decide)
      (by decide) slot
  have same : earlier' = earlier := by
    rw [anchor] at back
    exact Date.ordinal_inj.mp (by omega)
  subst same
  obtain rfl : had' = true := Except.ok.inj (before.symm.trans had)
  exact ⟨shift, had, made, afterwards⟩

def lastYearsStore : Store :=
  let day : Date := ⟨9997, 6, 1, by decide⟩
  Store.after {} newYearsEve (.create (some ['a']) { Series.everyOtherDay.start with date := day }
    { Series.everyOtherDay.finish with date := day } { frequency := some .weekly } none)

/-- The days are not the same in general: every other week another week is meant, a cancelled day is
back, and a horizon beyond the calendar leaves no days at all. -/
theorem hasOccurrence_changes_onAndOn :
    let day : Date := ⟨2024, 1, 3, by decide⟩
    let split := onAndOnStore.call (splitSeries newYearsEve 1 day none none none)
    let split' := lastYearsStore.call (splitSeries newYearsEve 1 ⟨9998, 1, 4, by decide⟩ none none none)
    (onAndOnStore.Reachable
        ∧ (onAndOnStore.call (getEvent newYearsEve 1)).1.map (fun e => (e.start, e.rule? newYearsEve.standpoint))
          = .ok (Series.everyOtherDay.start, .ok (some onAndOn))
        ∧ onAndOn.count = none ∧ onAndOn.ends = none
        ∧ onAndOn.occursOn ⟨2024, 1, 1, by decide⟩ day = true
        ∧ onAndOn.ReachesHorizon ⟨2024, 1, 1, by decide⟩ newYearsEve.bounds ⟨2026, 1, 1, by decide⟩
        ∧ onAndOn.ReachesHorizon day newYearsEve.bounds ⟨2026, 1, 3, by decide⟩)
      ∧ split.1 = .ok 2
      ∧ (onAndOnStore.hasOccurrence newYearsEve 1 ⟨2024, 1, 15, by decide⟩ = .ok true
        ∧ split.2.hasOccurrence newYearsEve 2 ⟨2024, 1, 15, by decide⟩ = .ok false)
      ∧ (onAndOnStore.hasOccurrence newYearsEve 1 ⟨2024, 1, 17, by decide⟩ = .ok false
        ∧ split.2.hasOccurrence newYearsEve 2 ⟨2024, 1, 17, by decide⟩ = .ok true)
      ∧ split'.1 = .ok 2
      ∧ lastYearsStore.hasOccurrence newYearsEve 1 ⟨9998, 1, 11, by decide⟩ = .ok true
      ∧ split'.2.hasOccurrence newYearsEve 2 ⟨9998, 1, 11, by decide⟩ = .error (.yearOutOfRange 10000) := by
  intro day split split'
  have fetched : (onAndOnStore.call (getEvent newYearsEve 1)).1.map
      (fun e => (e.start, e.rule? newYearsEve.standpoint)) = .ok (Series.everyOtherDay.start, .ok (some onAndOn)) := by
    decide +kernel
  refine ⟨⟨reachable_onAndOnStore, fetched, rfl, rfl, by decide, reachesHorizon_onAndOn⟩, ?_, ⟨?_, ?_⟩,
    ⟨?_, ?_⟩, ?_, ?_, ?_⟩
  all_goals decide +kernel

end Store

end Recurrence
