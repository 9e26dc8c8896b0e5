import Recurrence.Proofs.Series.SingleDay
import Recurrence.Proofs.Store.Continuing
import Recurrence.Proofs.Store.DayChange
import Recurrence.Proofs.Store.Fetching

/-! Changing one day changes what is fetched of that day and nothing else. The days of a series are
used up whether or not they are cancelled, so the change lets no other day in or out. -/

namespace Recurrence

theorem Occurrence.filter_under {o : Occurrence} {flag : Option Override} {first last : Moment}
    (within : o.isWithin first last = true) :
    (o.under flag).filter (Occurrence.isWithin first last) = o.under flag := by
  apply List.filter_eq_self.mpr
  intro x member
  unfold Occurrence.under at member
  split at member
  · cases member
  · rw [List.mem_singleton.mp member]
    exact within

namespace Event

variable {e : Event} {day : Date} {start finish : Moment}

/-- The slot of an event on a day is the one of the series that repeats it. -/
theorem isSlot_of_slot (naive : e.start.offset = none ∧ e.finish.offset = none) (rule : Rule)
    (h : e.slot day = .ok (start, finish)) :
    (⟨e.start, e.finish, rule⟩ : Series).IsSlot none day ⟨start, finish, none⟩ := by
  obtain ⟨rfl, sum⟩ := slot_eq_ok naive.1 naive.2 h
  obtain ⟨offset, clock⟩ := Moment.add_eq_ok sum
  exact ⟨rfl, offset, clock, rfl⟩

theorem endDay_le_of_slot (naive : e.start.offset = none ∧ e.finish.offset = none)
    (ahead : e.start.date ≤ day) (h : e.slot day = .ok (start, finish)) :
    e.endDay day ≤ lastOrdinal := by
  obtain ⟨rfl, sum⟩ := slot_eq_ok naive.1 naive.2 h
  exact (exists_add_iff ahead).mp ⟨finish, sum⟩

theorem exists_slot_of_standInSpan {begins ends : Option Moment}
    (h : e.standInSpan day begins ends = .ok (start, finish)) : ∃ slot, e.slot day = .ok slot := by
  obtain ⟨slot, placed, -⟩ := bind_eq_ok.mp h
  exact ⟨slot, placed⟩

/-- What stands in without a start and an end of its own takes the slot of the day. -/
theorem slot_of_standInSpan (naive : e.start.offset = none ∧ e.finish.offset = none)
    (h : e.standInSpan day none none = .ok (start, finish)) : e.slot day = .ok (start, finish) := by
  obtain ⟨⟨slotStart, slotFinish⟩, placed, h⟩ := bind_eq_ok.mp h
  obtain ⟨duration, apart, h⟩ := bind_eq_ok.mp h
  obtain ⟨_, sum, h⟩ := bind_eq_ok.mp h
  cases h
  obtain ⟨begins, slot⟩ := slot_eq_ok naive.1 naive.2 placed
  obtain ⟨offset, -⟩ := Moment.add_eq_ok slot
  have bare : slotStart.offset = none := (congrArg Moment.offset begins).trans naive.1
  rw [Moment.since_of_naive (offset.trans bare) bare] at apart
  cases apart
  obtain ⟨offset', clock⟩ := Moment.add_eq_ok sum
  have same : finish = slotFinish := by
    apply Moment.clockMicros_inj (offset'.trans offset.symm)
    rw [clock]
    dsimp only [Option.getD_none]
    omega
  rw [placed, same]
  rfl

end Event

namespace Store

variable {s s' : Store} {c c' during : Conditions} {id : Int} {day : Date} {what : DayChange}
  {child : Option Int} {e : Event} {rule : Rule} {first last : Moment} {os : List Override}

/-- After a change of a day the event is read as it was, and its exceptions count for the other days
as they did. -/
theorem exists_rereads (run : Reaches Call.AddsNoChild {} s) (year : 1000 ≤ day.year)
    (read : s.tables.read c.standpoint id = .ok e) (overridden : s.tables.overrides c.standpoint id = .ok os)
    (changed : s.call (change during id day what) = (.ok child, s')) (base : c'.base = c.base) :
    ∃ os', (s'.call (getEvent c' id)).1 = .ok e ∧ (s'.call (getExceptions c' id)).1 = .ok os'
      ∧ (∀ d, d ≠ day → Override.lastFor? os' d = Override.lastFor? os d)
      ∧ ((∀ x ∈ s.tables.exceptions, x.parent = id → ¬ x.Shadows c.standpoint day (what.flag? day child)) →
        Override.lastFor? os' day = what.flag? day child) := by
  have unlooped := run.unlooped.2
  have run' : Reaches Call.AddsNoChild {} s' := by
    rw [after_toCall changed]
    apply run.call
    cases what <;> trivial
  have sound' := run'.unlooped.2.nested.sound
  have legible' : s'.tables.Legible False := (run'.legible nofun).2
  have sets := setsDay_of_change unlooped year changed
  obtain ⟨row, there, rfl, reading⟩ := unlooped.nested.sound.read_eq_ok.mp read
  obtain ⟨os', told⟩ := sets.exists_overrides year sound' overridden
  have same : c'.standpoint.base = c.standpoint.base := base
  refine ⟨os', ?_, ?_, ?_, sets.lastFor?_day year sound' told⟩
  · rw [call_getEvent, legible'.read_eq same, sound'.read_eq_ok]
    exact ⟨row, sets.kept row there rfl, rfl, reading⟩
  · rw [call_getExceptions, legible'.overrides_eq same, told]
  · exact fun d other => sets.lastFor?_of_ne year unlooped.nested.sound sound' overridden told other

theorem exists_slot_of_change (run : Reaches Call.AddsNoChild {} s) (year : 1000 ≤ day.year)
    (read : s.tables.read c.standpoint id = .ok e) (standsIn : what ≠ .cancel ∧ what ≠ .restore)
    (base : during.base = c.base)
    (changed : s.call (change during id day what) = (.ok child, s')) :
    ∃ slot, e.slot day = .ok slot := by
  have legible : s.tables.Legible False := (run.legible nofun).2
  have same : during.standpoint.base = c.standpoint.base := base
  have placed : ∀ {kind title start finish n after},
      s.call (overrideOccurrence during id day kind title start finish) = (.ok n, after) →
      ∃ slot, e.slot day = .ok slot := by
    intro kind title start finish n after done
    obtain ⟨-, e', begins, ends, read', span, -⟩ := setsDay_of_override run.unlooped.2 year done
    rw [legible.read_eq same, read] at read'
    obtain rfl := Except.ok.inj read'
    exact Event.exists_slot_of_standInSpan span
  cases what with
  | cancel => exact absurd rfl standsIn.1
  | restore => exact absurd rfl standsIn.2
  | modify title start finish =>
      obtain ⟨n, _, done, -⟩ := call_bind_eq_ok changed
      exact placed done
  | move start finish =>
      obtain ⟨n, _, done, -⟩ := call_bind_eq_ok changed
      exact placed done

/-- After a change of a day an expansion goes on succeeding, unless the day is restored and its slot
leaves the calendar: an event can only be put in the place of a slot that does not. -/
theorem exists_expand_of_change {b : Bounds} {all : List Occurrence} {os' : List Override}
    (run : Reaches Call.AddsNoChild {} s) (year : 1000 ≤ day.year)
    (read : s.tables.read c.standpoint id = .ok e) (base : during.base = c.base)
    (changed : s.call (change during id day what) = (.ok child, s'))
    (agree : ∀ d, d ≠ day → Override.lastFor? os' d = Override.lastFor? os d)
    (onDay : Override.lastFor? os' day = what.flag? day child)
    (expanded : (⟨e.start, e.finish, rule⟩ : Series).expand (.ofList os) b = .ok all) :
    (∃ all', (⟨e.start, e.finish, rule⟩ : Series).expand (.ofList os') b = .ok all')
      ↔ (what = .restore → ∀ horizon, e.start.date.addYears b.horizonYears = .ok horizon →
        day ∈ (⟨e.start, e.finish, rule⟩ : Series).usedDays b horizon → e.endDay day ≤ lastOrdinal) := by
  have naive := Tables.offset_of_read read
  rw [Series.exists_expand_iff_of_agree naive agree expanded, onDay]
  constructor
  · rintro inCalendar rfl
    exact inCalendar rfl
  · intro restored shown horizon years used
    by_cases cancelled : what = .cancel
    · subst cancelled
      cases shown
    · by_cases same : what = .restore
      · exact restored same horizon years used
      · have ahead : (⟨e.start, e.finish, rule⟩ : Series).anchor ≤ day :=
          Series.le_of_mem_usedDays used
        obtain ⟨⟨start, finish⟩, slot⟩ :=
          exists_slot_of_change run year read ⟨cancelled, same⟩ base changed
        exact Event.endDay_le_of_slot naive ahead slot

/-- An event that stands in without a start and an end of its own is read with those of the slot. -/
theorem exists_standIn_of_modify {title : Option Text} (run : Reaches Call.AddsNoChild {} s)
    (year : 1000 ≤ day.year) (read : s.tables.read c.standpoint id = .ok e) (ahead : e.start.date ≤ day)
    (base : during.base = c.base)
    (changed : s.call (change during id day (.modify title none none)) = (.ok child, s'))
    (c' : Conditions) :
    ∃ n stand, child = some n ∧ (s'.call (getEvent c' n)).1 = .ok stand
      ∧ e.slot day = .ok (stand.start, stand.finish) := by
  have legible : s.tables.Legible False := (run.legible nofun).2
  have run' : Reaches Call.AddsNoChild {} s' := by
    rw [after_toCall changed]
    exact run.call during (.modify id day title none none) trivial
  have sound' := run'.sound.2
  have legible' : s'.tables.Legible False := (run'.legible nofun).2
  have same : during.standpoint.base = c.standpoint.base := base
  obtain ⟨row, there, -, reading⟩ := run.sound.2.read_eq_ok.mp read
  obtain ⟨_, _, _, records, -⟩ := legible.records row there
  obtain ⟨starts, finishes⟩ := Event.isStorable_of_ofRow records reading
  obtain ⟨n, _, done, rest⟩ := call_bind_eq_ok changed
  cases rest
  obtain ⟨-, e', begins, ends, read', span, new, member, number, begun, ended⟩ :=
    setsDay_of_override run.unlooped.2 year done
  rw [legible.read_eq same, read] at read'
  obtain rfl := Except.ok.inj read'
  have slot := Event.slot_of_standInSpan ⟨starts.offset, finishes.offset⟩ span
  obtain ⟨storable, storable'⟩ := Event.isStorable_slot starts finishes ahead slot
  have told : ∃ stand, Event.ofRow c'.standpoint new = .ok stand ∧ stand.start = begins
      ∧ stand.finish = ends := by
    obtain ⟨_, _, _, records', -⟩ := legible'.records new member
    rw [Event.ofRow, begun, ended, StoredMoment.read_of_isStorable storable,
      StoredMoment.read_of_isStorable storable', ok_bind, ok_bind,
      Event.endDay?_of_records records', ok_bind]
    exact ⟨_, rfl, rfl, rfl⟩
  obtain ⟨stand, told, rfl, rfl⟩ := told
  refine ⟨n, stand, rfl, ?_, slot⟩
  rw [call_getEvent]
  exact sound'.read_eq_ok.mpr ⟨new, member, number, told⟩

/-- One day of an event is changed, of the year 1000 or later. Where a window can be fetched before and
after that, the other days are shown as before. Unless an exception on another day is read as one of the
day, the window can be fetched as before, except that a restored slot may end outside the calendar, and
a slot that the series has on the day without exceptions is shown as the change left it: not at all,
plain, or in its place with the kind of the change and the event that stands in. The base year is that
of one run of the program. -/
theorem getOccurrences_of_change (run : Reaches Call.AddsNoChild {} s) (year : 1000 ≤ day.year)
    (read : (s.call (getEvent c id)).1 = .ok e) (recurring : e.rule? c.standpoint = .ok (some rule))
    (naiveFirst : first.offset = none) (naiveLast : last.offset = none) {listed : List Occurrence}
    {told : Option Rule}
    (fetched : (s.call (getOccurrences c id first last)).1 = .ok (listed, told))
    (changed : s.call (change during id day what) = (.ok child, s'))
    (recurring' : e.rule? c'.standpoint = .ok (some rule)) (limits : c'.bounds = c.bounds)
    (base : during.base = c.base) (base' : c'.base = c.base) :
    let series : Series := ⟨e.start, e.finish, rule⟩
    let bounds : Bounds := { c.bounds with queryEnd := some (.moment last) }
    let later := (s'.call (getOccurrences c' id first last)).1
    let flag := what.flag? day child
    let unshadowed := ∀ x ∈ s.tables.exceptions, x.parent = id → ¬ x.Shadows c.standpoint day flag
    (∀ listed' told', later = .ok (listed', told') →
        told' = told ∧ listed'.filter (fun o => decide (o.start.date ≠ day))
          = listed.filter fun o => decide (o.start.date ≠ day))
      ∧ (unshadowed → ((∃ answer, later = .ok answer) ↔ (what = .restore →
        ∀ horizon, e.start.date.addYears c.horizonYears = .ok horizon →
          day ∈ series.usedDays bounds horizon → e.endDay day ≤ lastOrdinal)))
      ∧ ∀ bare o, series.expand (.ofList []) bounds = .ok bare → o ∈ bare → o.start.date = day →
        (unshadowed → o.isWithin first last = true → ∀ listed' told', later = .ok (listed', told') →
          listed'.filter (fun x => decide (x.start.date = day)) = o.under flag)
        ∧ ∀ title, what = .modify title none none → ∃ n stand, child = some n
          ∧ (s'.call (getEvent c' n)).1 = .ok stand ∧ stand.start = o.start
          ∧ stand.finish = o.finish := by
  intro series bounds later flag unshadowed
  rw [call_getEvent] at read
  have naive := Tables.offset_of_read read
  obtain ⟨_, answer⟩ := s.call_getOccurrences c id first last
  obtain ⟨os, overridden⟩ : ∃ os, s.tables.overrides c.standpoint id = .ok os := by
    rw [answer, Tables.occurrences_eq_ok read recurring] at fetched
    obtain ⟨-, os, overridden, -⟩ := fetched
    exact ⟨os, overridden⟩
  obtain ⟨os', event, exceptions, agree, onDay⟩ := exists_rereads run year read overridden changed base'
  obtain ⟨rfl, all, expanded, rfl⟩ := (getOccurrences_eq_ok (by rw [call_getEvent, read]) recurring
    (by rw [call_getExceptions, overridden]) naiveFirst naiveLast).mp fetched
  have answers : ∀ listed' told', later = .ok (listed', told') ↔ told' = some rule
      ∧ ∃ all', series.expand (.ofList os') bounds = .ok all'
        ∧ listed' = all'.filter (Occurrence.isWithin first last) := by
    intro listed' told'
    have fetching := @getOccurrences_eq_ok s' c' id e rule os' first last listed' told' event recurring'
      exceptions naiveFirst naiveLast
    rw [limits] at fetching
    exact fetching
  refine ⟨?_, ?_, ?_⟩
  · intro listed' told' found
    obtain ⟨rfl, all', expanded', rfl⟩ := (answers listed' told').mp found
    have others := Series.filter_expand_of_agree naive agree expanded expanded'
    rw [List.filter_comm, others, List.filter_comm]
    exact ⟨rfl, rfl⟩
  · intro plain
    have succeeds : (∃ answer, later = .ok answer)
        ↔ ∃ all', series.expand (.ofList os') bounds = .ok all' := by
      constructor
      · rintro ⟨⟨listed', told'⟩, found⟩
        obtain ⟨-, all', expanded', -⟩ := (answers listed' told').mp found
        exact ⟨all', expanded'⟩
      · rintro ⟨all', expanded'⟩
        exact ⟨_, (answers _ _).mpr ⟨rfl, all', expanded', rfl⟩⟩
    rw [succeeds]
    exact exists_expand_of_change run year read base changed agree (onDay plain) expanded
  · intro bare o without member date
    subst date
    refine ⟨?_, ?_⟩
    · intro plain within listed' told' found
      obtain ⟨-, all', expanded', rfl⟩ := (answers listed' told').mp found
      have shown := Series.filter_expand_eq_under naive expanded' without member
      rw [onDay plain] at shown
      rw [List.filter_comm, shown, Occurrence.filter_under within]
    · rintro title rfl
      obtain ⟨slot, horizon, -, used⟩ := Series.isSlot_of_plain naive without member
      have ahead : series.anchor ≤ o.start.date := Series.le_of_mem_usedDays used
      obtain ⟨n, stand, same, found, placed⟩ :=
        exists_standIn_of_modify run year read ahead base changed c'
      have here := slot.unique (Event.isSlot_of_slot naive rule placed)
      exact ⟨n, stand, same, found, congrArg Occurrence.start here, congrArg Occurrence.finish here⟩

/-- A meeting every day, cancelled on the third and then modified on the fifth: the fourth and the sixth
are shown as before, and the fifth in its place, with the event that stands in from nine to ten. -/
theorem getOccurrences_of_change_everyDay :
    let start : Moment := ⟨⟨2024, 1, 1, by decide⟩, ⟨9, 0, 0, 0, by decide⟩, none⟩
    let finish : Moment := ⟨⟨2024, 1, 1, by decide⟩, ⟨10, 0, 0, 0, by decide⟩, none⟩
    let first : Moment := ⟨⟨2024, 1, 3, by decide⟩, .midnight, none⟩
    let last : Moment := ⟨⟨2024, 1, 6, by decide⟩, .last, none⟩
    let day : Date := ⟨2024, 1, 5, by decide⟩
    let onDay : Date → Occurrence := fun day => Series.nineToTen day none
    let others := [onDay ⟨2024, 1, 4, by decide⟩, onDay ⟨2024, 1, 6, by decide⟩]
    let what : DayChange := .modify (some ['b']) none none
    let s := (Store.after {} newYearsEve (.create (some ['a']) start finish everyDay none)).after
      newYearsEve (.cancel 1 ⟨2024, 1, 3, by decide⟩)
    let changed := s.call (change newYearsEve 1 day what)
    (∃ listed, (s.call (getOccurrences newYearsEve 1 first last)).1 = .ok (listed, some everyDay)
        ∧ listed.filter (fun o => decide (o.start.date ≠ day)) = others)
      ∧ changed.1 = .ok (some 2)
      ∧ (∃ listed, (changed.2.call (getOccurrences newYearsEve 1 first last)).1
          = .ok (listed, some everyDay)
        ∧ listed.filter (fun o => decide (o.start.date ≠ day)) = others
        ∧ listed.filter (fun o => decide (o.start.date = day))
          = [Series.nineToTen day (some ⟨day, .modified, some ['2']⟩)])
      ∧ ∃ stand, (changed.2.call (getEvent newYearsEve 2)).1 = .ok stand
        ∧ stand.start = (onDay day).start ∧ stand.finish = (onDay day).finish := by
  intro start finish first last day onDay others what s changed
  have run : Reaches Call.AddsNoChild {} s := .call _ _ (.call _ _ .start trivial) trivial
  have there : ((s.call (getEvent newYearsEve 1)).1.map fun e =>
      (e.start, e.finish, e.rule? newYearsEve.standpoint)) = .ok (start, finish, .ok (some everyDay)) := by
    decide +kernel
  have before : (s.call (getOccurrences newYearsEve 1 first last)).1
      = .ok ([onDay ⟨2024, 1, 4, by decide⟩, onDay day, onDay ⟨2024, 1, 6, by decide⟩],
        some everyDay) := by
    decide +kernel
  have answer : changed.1 = .ok (some 2) := by decide +kernel
  have told : ∀ x ∈ s.tables.exceptions,
      DateText.day? newYearsEve.standpoint x.date ≠ .ok (some day) := by
    decide +kernel
  have bare : ∃ bare, Series.expand ⟨start, finish, everyDay⟩ (.ofList [])
      { newYearsEve.bounds with queryEnd := some (.moment last) } = .ok bare ∧ onDay day ∈ bare := by
    refine ⟨[onDay ⟨2024, 1, 1, by decide⟩, onDay ⟨2024, 1, 2, by decide⟩,
      onDay ⟨2024, 1, 3, by decide⟩, onDay ⟨2024, 1, 4, by decide⟩, onDay day,
      onDay ⟨2024, 1, 6, by decide⟩], ?_, ?_⟩
    · decide +kernel
    · decide +kernel
  have kept : [onDay ⟨2024, 1, 4, by decide⟩, onDay day, onDay ⟨2024, 1, 6, by decide⟩].filter
      (fun o => decide (o.start.date ≠ day)) = others := by
    decide +kernel
  have pair : ∀ {p : Except Fault (Option Int) × Store}, p.1 = .ok (some 2) →
      p = (.ok (some 2), p.2) := by
    rintro ⟨_, _⟩ rfl
    rfl
  have same : s.call (change newYearsEve 1 day what) = (.ok (some 2), changed.2) := pair answer
  clear_value s changed
  obtain ⟨e, read, begins, ends, recurring⟩ := exists_event there
  obtain ⟨bare, expanded, member⟩ := bare
  rw [← begins, ← ends] at expanded
  obtain ⟨shown, goesOn, onThatDay⟩ :=
    getOccurrences_of_change run (by decide) read recurring rfl rfl before same recurring rfl rfl rfl
  have plain : ∀ x ∈ s.tables.exceptions, x.parent = 1 →
      ¬ x.Shadows newYearsEve.standpoint day (what.flag? day (some 2)) :=
    fun x listed _ shadows => told x listed shadows.read
  have answered := (goesOn plain).mpr fun restored => DayChange.noConfusion restored
  obtain ⟨⟨listed, rule⟩, found⟩ := answered
  obtain ⟨rfl, rest⟩ := shown listed rule found
  obtain ⟨slot, standIn⟩ := onThatDay bare (onDay day) expanded member rfl
  obtain ⟨n, stand, named, readBack, placed⟩ := standIn (some ['b']) rfl
  cases named
  refine ⟨⟨_, before, kept⟩, answer, ⟨listed, found, rest.trans kept, ?_⟩, stand, readBack, placed⟩
  exact (slot plain (by decide) listed _ found).trans (by decide)

end Store

end Recurrence
