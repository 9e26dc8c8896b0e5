import Recurrence.Proofs.Series.Ceiling
import Recurrence.Proofs.Store.OnDay

/-! What fetching shows of an event in a window. The query limit is used up from the anchor on, so a
window behind the first days of a long series shows nothing, however few days lie in it. -/

namespace Recurrence

/-- The expansion of an event up to the end of a query does not leave the calendar: the slots it lists
end in it, and it stops before the last day. -/
structure Event.StaysInCalendar (e : Event) (rule : Rule) (os : List Override) (ceiling : Int)
    (last : Date) : Prop where
  slots : ∀ day ∈ (⟨e.start, e.finish, rule⟩ : Series).firstDays ceiling last,
    (Override.lastFor? os day).any Override.isCancelled = false → e.endDay day ≤ lastOrdinal
  stops : ∃ day : Date, day.ordinal < lastOrdinal
    ∧ (⟨e.start, e.finish, rule⟩ : Series).StopsBy ceiling last day

theorem Tables.offset_of_read {t : Tables} {here : DateText.Standpoint} {id : Int} {e : Event}
    (read : t.read here id = .ok e) : e.start.offset = none ∧ e.finish.offset = none := by
  obtain ⟨key, -, read⟩ := bind_eq_ok.mp read
  split at read
  · cases read
  · exact Event.offset_of_ofRow read

/-- The expansion of an event up to the end of a query within the horizon succeeds where it stays in the
calendar. -/
theorem Event.staysInCalendar_iff {e : Event} {rule : Rule} {os : List Override} {b : Bounds}
    {horizon : Date} {queryEnd : Stamp} (naive : e.start.offset = none ∧ e.finish.offset = none)
    (years : e.start.date.addYears b.horizonYears = .ok horizon) (upTo : queryEnd.date ≤ horizon) :
    e.StaysInCalendar rule os b.maxInstances queryEnd.date
      ↔ ∃ all, Series.expand ⟨e.start, e.finish, rule⟩ (.ofList os)
        { b with queryEnd := some queryEnd } = .ok all := by
  have expands := @Series.exists_expand_iff ⟨e.start, e.finish, rule⟩ _ b os horizon queryEnd
    (Moment.since_of_naive naive.2 naive.1) years upTo
  have ends : ∀ day ∈ (⟨e.start, e.finish, rule⟩ : Series).firstDays b.maxInstances queryEnd.date,
      (∃ m, ({ e.start with date := day } : Moment).add ⟨e.finish.clockMicros - e.start.clockMicros⟩
        = .ok m) ↔ e.endDay day ≤ lastOrdinal := by
    intro day listed
    exact exists_add_iff (Date.mem_through.mp ((Series.firstDays_sublist _ _ _).subset listed)).1
  rw [expands]
  constructor
  · rintro ⟨slots, stops⟩
    exact ⟨fun day listed kept => (ends day listed).mpr (slots day listed kept), stops⟩
  · rintro ⟨slots, stops⟩
    exact ⟨fun day listed kept => (ends day listed).mp (slots day listed kept), stops⟩

namespace Store

variable {s : Store} {c : Conditions} {id : Int} {e : Event} {rule : Rule} {horizon : Date}
  {os : List Override} {first last : Moment}

/-- Fetching a window between moments without offsets is expanding up to its end and keeping what starts
in it. -/
theorem getOccurrences_eq_ok {listed : List Occurrence} {told : Option Rule}
    (read : (s.call (getEvent c id)).1 = .ok e) (recurring : e.rule? c.standpoint = .ok (some rule))
    (overridden : (s.call (getExceptions c id)).1 = .ok os)
    (naiveFirst : first.offset = none) (naiveLast : last.offset = none) :
    (s.call (getOccurrences c id first last)).1 = .ok (listed, told)
      ↔ told = some rule ∧ ∃ all, Series.expand ⟨e.start, e.finish, rule⟩ (.ofList os)
          { c.bounds with queryEnd := some (.moment last) } = .ok all
        ∧ listed = all.filter (Occurrence.isWithin first last) := by
  rw [call_getEvent] at read
  rw [call_getExceptions] at overridden
  obtain ⟨text, written⟩ := Event.exists_write_of_rule? recurring
  obtain ⟨notes, answer⟩ := s.call_getOccurrences c id first last
  have within := fun all => @Series.occurrencesWithin_of_expand ⟨e.start, e.finish, rule⟩ (.ofList os)
    { c.bounds with queryEnd := some (.moment last) } all first last naiveFirst naiveLast
    (Tables.offset_of_read read).1
  rw [answer, Tables.occurrences_eq_ok read recurring]
  constructor
  · rintro ⟨rfl, overrides, given, all, expanded, kept, -⟩
    obtain rfl := Except.ok.inj (overridden.symm.trans given)
    exact ⟨rfl, all, expanded, Except.ok.inj (kept.symm.trans (within all expanded))⟩
  · rintro ⟨rfl, all, expanded, rfl⟩
    exact ⟨rfl, os, overridden, all, expanded, within all expanded, text, written⟩

/-- Looking no further than the end of a window loses nothing. Where the series expands without the end
of a query, what that expansion has in the window is shown. A window that ends earlier shows what a
longer one, where it is shown, has up to there. -/
theorem getOccurrences_of_expansion (read : (s.call (getEvent c id)).1 = .ok e)
    (recurring : e.rule? c.standpoint = .ok (some rule))
    (overridden : (s.call (getExceptions c id)).1 = .ok os)
    (naiveFirst : first.offset = none) (naiveLast : last.offset = none) :
    (∀ all, Series.expand ⟨e.start, e.finish, rule⟩ (.ofList os) c.bounds = .ok all →
        (s.call (getOccurrences c id first last)).1
          = .ok (all.filter (Occurrence.isWithin first last), some rule))
      ∧ ∀ (later : Moment) listed told, later.offset = none → last.clockMicros ≤ later.clockMicros →
        (s.call (getOccurrences c id first later)).1 = .ok (listed, told) →
        (s.call (getOccurrences c id first last)).1
          = .ok (listed.filter fun o => decide (o.start.clockMicros ≤ last.clockMicros), told) := by
  have answers := fun upTo naiveUpTo listed told =>
    @getOccurrences_eq_ok s c id e rule os first upTo listed told read recurring overridden naiveFirst
      naiveUpTo
  -- The walk ends with the day of the last moment, the window with the moment itself.
  have onDays : ∀ all : List Occurrence,
      (all.filter fun o => decide (o.start.date ≤ (Stamp.moment last).date)).filter
          (Occurrence.isWithin first last)
        = all.filter (Occurrence.isWithin first last) := by
    intro all
    rw [List.filter_filter]
    apply List.filter_congr
    intro o _
    rw [Bool.and_eq_left_iff_imp, decide_eq_true_eq, Occurrence.isWithin_iff]
    exact fun within => Moment.date_le_of_clockMicros within.2
  constructor
  · intro all expanded
    have upTo := @Series.expand_upTo _ _ c.bounds all (.moment last)
      (fun stamp given => absurd given (Option.some_ne_none stamp).symm) expanded
    exact (answers last naiveLast _ _).mpr ⟨rfl, _, upTo, (onDays all).symm⟩
  · intro later listed told naiveLater within fetched
    obtain ⟨rfl, all, expanded, rfl⟩ := (answers later naiveLater _ _).mp fetched
    have upTo := @Series.expand_upTo _ _ _ all (.moment last) (fun stamp given => by
      cases given
      exact Moment.date_le_of_clockMicros within) expanded
    refine (answers last naiveLast _ _).mpr ⟨rfl, _, upTo, ?_⟩
    rw [onDays, List.filter_filter]
    apply List.filter_congr
    exact fun o _ => Occurrence.isWithin_shorter within

/-- A window that ends within the horizon is fetched exactly where the expansion up to its end stays
in the calendar. It shows what lies in it of the first days of the series, as many of them as the
query limit allows: each once, in its slot, in order, and none that is cancelled. That is all the
series has in the window if up to its end the series has no more days than the limit. -/
theorem getOccurrences_lists_firstDays (read : (s.call (getEvent c id)).1 = .ok e)
    (recurring : e.rule? c.standpoint = .ok (some rule))
    (overridden : (s.call (getExceptions c id)).1 = .ok os)
    (naiveFirst : first.offset = none) (naiveLast : last.offset = none)
    (years : e.start.date.addYears c.horizonYears = .ok horizon) (upTo : last.date ≤ horizon) :
    let series : Series := ⟨e.start, e.finish, rule⟩
    let fetched := (s.call (getOccurrences c id first last)).1
    ((∃ answer, fetched = .ok answer) ↔ e.StaysInCalendar rule os c.queryLimit last.date)
      ∧ ∀ listed told, fetched = .ok (listed, told) →
        told = some rule
          ∧ series.Lists os (series.shownDays os first last
              (series.firstDays c.queryLimit last.date)) listed
          ∧ listed.Pairwise (fun o o' => o.start.date < o'.start.date)
          ∧ (((series.occurrenceDays last.date).length : Int) ≤ c.queryLimit →
            series.Lists os (series.shownDays os first last (series.occurrenceDays last.date))
              listed) := by
  intro series fetched
  have answers := fun listed told =>
    @getOccurrences_eq_ok s c id e rule os first last listed told read recurring overridden naiveFirst
      naiveLast
  rw [call_getEvent] at read
  have naive := Tables.offset_of_read read
  have stays := @Event.staysInCalendar_iff e rule os c.bounds horizon (.moment last) naive years upTo
  constructor
  · refine Iff.trans ?_ stays.symm
    constructor
    · rintro ⟨⟨listed, told⟩, found⟩
      obtain ⟨-, all, expanded, -⟩ := (answers listed told).mp found
      exact ⟨all, expanded⟩
    · rintro ⟨all, expanded⟩
      exact ⟨_, (answers _ _).mpr ⟨rfl, all, expanded, rfl⟩⟩
  · intro listed told found
    obtain ⟨rfl, all, expanded, rfl⟩ := (answers listed told).mp found
    have all := @Series.lists_of_expand series c.bounds os horizon (.moment last) all naive.1 naive.2
      years upTo expanded
    have shown := all.within first last
    refine ⟨rfl, shown, shown.sorted (series.shownDays_sorted os first last _ _), ?_⟩
    intro few
    rw [← Series.firstDays_eq_self few]
    exact shown

theorem exists_event {start finish : Moment} {told : Except Fault (Option Rule)}
    (h : ((s.call (getEvent c id)).1.map fun e => (e.start, e.finish, e.rule? c.standpoint))
      = .ok (start, finish, told)) :
    ∃ e, (s.call (getEvent c id)).1 = .ok e ∧ e.start = start ∧ e.finish = finish
      ∧ e.rule? c.standpoint = told := by
  obtain ⟨e, read, same⟩ := map_eq_ok.mp h
  refine ⟨e, read, ?_⟩
  simpa only [Prod.mk.injEq] using same

/-- A meeting every day from the first of January, cancelled on the second and looked for from there
to the fifth with a limit of three: the third is left. -/
theorem getOccurrences_lists_everyDay :
    let start : Moment := ⟨⟨2024, 1, 1, by decide⟩, ⟨9, 0, 0, 0, by decide⟩, none⟩
    let finish : Moment := ⟨⟨2024, 1, 1, by decide⟩, ⟨10, 0, 0, 0, by decide⟩, none⟩
    let first : Moment := ⟨⟨2024, 1, 2, by decide⟩, .midnight, none⟩
    let last : Moment := ⟨⟨2024, 1, 5, by decide⟩, .last, none⟩
    let cancelled : Override := ⟨⟨2024, 1, 2, by decide⟩, .cancelled, none⟩
    let c := { newYearsEve with queryLimit := 3 }
    let s := (Store.after {} newYearsEve (.create (some ['a']) start finish everyDay none)).after
      newYearsEve (.cancel 1 ⟨2024, 1, 2, by decide⟩)
    ∃ e, (s.call (getEvent c 1)).1 = .ok e ∧ e.rule? c.standpoint = .ok (some everyDay)
      ∧ (s.call (getExceptions c 1)).1 = .ok [cancelled]
      ∧ e.StaysInCalendar everyDay [cancelled] c.queryLimit last.date
      ∧ (s.call (getOccurrences c 1 first last)).1
        = .ok ([Series.nineToTen ⟨2024, 1, 3, by decide⟩ none], some everyDay)
      ∧ (⟨e.start, e.finish, everyDay⟩ : Series).Lists [cancelled] [⟨2024, 1, 3, by decide⟩]
        [Series.nineToTen ⟨2024, 1, 3, by decide⟩ none] := by
  intro start finish first last cancelled c s
  have there : ((s.call (getEvent c 1)).1.map fun e => (e.start, e.finish, e.rule? c.standpoint))
      = .ok (start, finish, .ok (some everyDay)) := by
    decide +kernel
  have overridden : (s.call (getExceptions c 1)).1 = .ok [cancelled] := by decide +kernel
  have fetched : (s.call (getOccurrences c 1 first last)).1
      = .ok ([Series.nineToTen ⟨2024, 1, 3, by decide⟩ none], some everyDay) := by
    decide +kernel
  obtain ⟨e, read, begins, ends, recurring⟩ := exists_event there
  have years : e.start.date.addYears c.horizonYears = .ok ⟨2026, 1, 1, by decide⟩ := by
    rw [begins]
    decide
  obtain ⟨stays, lists⟩ := @getOccurrences_lists_firstDays s c 1 e everyDay _ [cancelled] first last read
    recurring overridden rfl rfl years (by decide)
  refine ⟨e, read, recurring, overridden, stays.mp ⟨_, fetched⟩, fetched, ?_⟩
  have shown : (⟨start, finish, everyDay⟩ : Series).shownDays [cancelled] first last
      ((⟨start, finish, everyDay⟩ : Series).firstDays c.queryLimit last.date)
        = [⟨2024, 1, 3, by decide⟩] := by
    decide +kernel
  have listed := (lists _ _ fetched).2.1
  rw [begins, ends] at listed ⊢
  rw [shown] at listed
  exact listed

/-- A meeting every day, of which four days are looked at and the second is cancelled. A window that
closes on the fourth before the meeting starts shows the third, and so does the part of a longer window
up to then. -/
theorem getOccurrences_of_expansion_everyDay :
    let start : Moment := ⟨⟨2024, 1, 1, by decide⟩, ⟨9, 0, 0, 0, by decide⟩, none⟩
    let finish : Moment := ⟨⟨2024, 1, 1, by decide⟩, ⟨10, 0, 0, 0, by decide⟩, none⟩
    let first : Moment := ⟨⟨2024, 1, 2, by decide⟩, .midnight, none⟩
    let last : Moment := ⟨⟨2024, 1, 4, by decide⟩, ⟨8, 0, 0, 0, by decide⟩, none⟩
    let later : Moment := ⟨⟨2024, 1, 6, by decide⟩, .last, none⟩
    let onDay : Date → Occurrence := fun day => Series.nineToTen day none
    let third := onDay ⟨2024, 1, 3, by decide⟩
    let c := { newYearsEve with queryLimit := 4 }
    let s := (Store.after {} newYearsEve (.create (some ['a']) start finish everyDay none)).after
      newYearsEve (.cancel 1 ⟨2024, 1, 2, by decide⟩)
    Series.expand ⟨start, finish, everyDay⟩ (.ofList [⟨⟨2024, 1, 2, by decide⟩, .cancelled, none⟩])
        c.bounds = .ok [onDay ⟨2024, 1, 1, by decide⟩, third, onDay ⟨2024, 1, 4, by decide⟩]
      ∧ (s.call (getOccurrences c 1 first later)).1
        = .ok ([third, onDay ⟨2024, 1, 4, by decide⟩], some everyDay)
      ∧ (s.call (getOccurrences c 1 first last)).1 = .ok ([third], some everyDay) := by
  intro start finish first last later onDay third c s
  have there : ((s.call (getEvent c 1)).1.map fun e => (e.start, e.finish, e.rule? c.standpoint))
      = .ok (start, finish, .ok (some everyDay)) := by
    decide +kernel
  have overridden : (s.call (getExceptions c 1)).1
      = .ok [⟨⟨2024, 1, 2, by decide⟩, .cancelled, none⟩] := by
    decide +kernel
  have expanded : Series.expand ⟨start, finish, everyDay⟩
      (.ofList [⟨⟨2024, 1, 2, by decide⟩, .cancelled, none⟩]) c.bounds
        = .ok [onDay ⟨2024, 1, 1, by decide⟩, third, onDay ⟨2024, 1, 4, by decide⟩] := by
    decide +kernel
  have insideLonger : [onDay ⟨2024, 1, 1, by decide⟩, third, onDay ⟨2024, 1, 4, by decide⟩].filter
      (Occurrence.isWithin first later) = [third, onDay ⟨2024, 1, 4, by decide⟩] := by
    decide +kernel
  have inside : [third, onDay ⟨2024, 1, 4, by decide⟩].filter
      (fun o => decide (o.start.clockMicros ≤ last.clockMicros)) = [third] := by
    decide +kernel
  clear_value s
  obtain ⟨e, read, begins, ends, recurring⟩ := exists_event there
  refine ⟨expanded, ?_⟩
  rw [← begins, ← ends] at expanded
  have shown := fun upTo naiveUpTo =>
    @getOccurrences_of_expansion s c 1 e everyDay _ first upTo read recurring overridden rfl naiveUpTo
  have whole := (shown later rfl).1 _ expanded
  rw [insideLonger] at whole
  have part := (shown last rfl).2 later _ _ rfl (by decide) whole
  rw [inside] at part
  exact ⟨whole, part⟩

/-- A meeting every day, shown in the first days of December with the limit of two hundred: two days of
the rule lie in the window, and nothing is shown. -/
theorem getOccurrences_empty_everyDay :
    let start : Moment := ⟨⟨2024, 1, 1, by decide⟩, ⟨9, 0, 0, 0, by decide⟩, none⟩
    let finish : Moment := ⟨⟨2024, 1, 1, by decide⟩, ⟨10, 0, 0, 0, by decide⟩, none⟩
    let first : Moment := ⟨⟨2024, 12, 1, by decide⟩, .midnight, none⟩
    let last : Moment := ⟨⟨2024, 12, 3, by decide⟩, .midnight, none⟩
    let horizon : Date := ⟨2026, 1, 1, by decide⟩
    let series : Series := ⟨start, finish, everyDay⟩
    let s := Store.after {} newYearsEve (.create (some ['a']) start finish everyDay none)
    (∃ e, (s.call (getEvent newYearsEve 1)).1 = .ok e ∧ e.start = start ∧ e.finish = finish
        ∧ e.rule? newYearsEve.standpoint = .ok (some everyDay))
      ∧ (s.call (getExceptions newYearsEve 1)).1 = .ok []
      ∧ start.date.addYears newYearsEve.horizonYears = .ok horizon ∧ last.date ≤ horizon
      ∧ (((series.occurrenceDays last.date).filter fun day =>
          (series.slotStart day).isBetween first last).length : Int) ≤ newYearsEve.queryLimit
      ∧ ¬ ∃ listed told, (s.call (getOccurrences newYearsEve 1 first last)).1 = .ok (listed, told)
        ∧ series.Lists [] (series.shownDays [] first last (series.occurrenceDays last.date)) listed := by
  intro start finish first last horizon series s
  have shown : series.shownDays [] first last (series.occurrenceDays last.date)
      = [⟨2024, 12, 1, by decide⟩, ⟨2024, 12, 2, by decide⟩] := by
    decide +kernel
  have fetched : (s.call (getOccurrences newYearsEve 1 first last)).1 = .ok ([], some everyDay) := by
    decide +kernel
  refine ⟨?_, by decide +kernel, by decide, by decide, by decide +kernel, ?_⟩
  · have there : ((s.call (getEvent newYearsEve 1)).1.map fun e =>
        (e.start, e.finish, e.rule? newYearsEve.standpoint)) = .ok (start, finish, .ok (some everyDay)) := by
      decide +kernel
    exact exists_event there
  · rintro ⟨listed, told, found, lists⟩
    obtain ⟨rfl, -⟩ := Prod.mk.injEq .. ▸ Except.ok.inj (fetched.symm.trans found)
    rw [shown] at lists
    exact absurd (List.Forall₂.length_eq lists) (by decide)

end Store

end Recurrence
