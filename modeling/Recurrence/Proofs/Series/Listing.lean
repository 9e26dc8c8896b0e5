import Mathlib.Data.List.Forall2
import Recurrence.Proofs.Calendar.Clock
import Recurrence.Proofs.Calendar.DayRange
import Recurrence.Proofs.Fault
import Recurrence.Proofs.Override.Lookup
import Recurrence.Series.Expansion

/-! The expansion of a series as a list: the member days within the bounds, the first of them up to
the share of the series, those of them that are not cancelled, and the slot of each of these. -/

namespace Recurrence.Series

variable {s : Series} {duration : Duration} {overrides : OverrideSet}

/-- The number of member days a series may use up: the ceiling, or the count where the rule sets a
lower one. -/
def share (s : Series) (b : Bounds) : Int :=
  match s.rule.count with
  | none => b.maxInstances
  | some n => if n = 0 then b.maxInstances else min n b.maxInstances

/-- The days of a series up to the horizon, the end of its rule and the end of the query. -/
def memberDays (s : Series) (queryEnd : Option Stamp) (horizon : Date) : List Date :=
  (s.anchor.through horizon).filter fun day =>
    s.rule.ends.all (fun e => decide (day ≤ e.date))
      && queryEnd.all (fun e => decide (day ≤ e.date))
      && s.rule.occursOn s.anchor day

/-- An occurrence stands in the slot of a day: it starts there at the time of day of the series,
lasts as long as the series' event, and carries the override `flag`. -/
structure IsSlot (s : Series) (flag : Option Override) (day : Date) (o : Occurrence) : Prop where
  start : o.start = { s.start with date := day }
  offset : o.finish.offset = s.start.offset
  finish : o.finish.clockMicros
    = o.start.clockMicros + (s.finish.clockMicros - s.start.clockMicros)
  override : o.override = flag

/-- What one day of the walk adds. -/
theorem occurrence?_eq_ok {day : Date} {found : Option Occurrence}
    (h : s.occurrence? duration overrides day = .ok found) :
    ((overrides.lookup? day).any Override.isCancelled = true ∧ found = none)
      ∨ ((overrides.lookup? day).any Override.isCancelled = false
        ∧ ∃ o, found = some o ∧ o.start = s.slotStart day
          ∧ (s.slotStart day).add duration = .ok o.finish ∧ o.override = overrides.lookup? day) := by
  simp only [occurrence?] at h
  split at h
  · rename_i cancelled
    cases h
    exact .inl ⟨cancelled, rfl⟩
  · rename_i kept
    refine .inr ⟨Bool.not_eq_true _ ▸ kept, ?_⟩
    obtain ⟨finish, sum, rfl⟩ := map_eq_ok.mp h
    exact ⟨_, rfl, rfl, sum, rfl⟩

/-- The days that the walk over `days` days turns into occurrences. -/
def keptDays (s : Series) (overrides : OverrideSet) (days : List Date) (left : Nat) : List Date :=
  ((days.filter (s.rule.occursOn s.anchor)).take left).filter fun day =>
    !(overrides.lookup? day).any Override.isCancelled

/-- The invariant of the walk: behind what was found stand the slots of the kept days ahead. -/
theorem walk_eq_ok {days : Nat} {day : Date} {left : Nat} {found result : List Occurrence}
    (h : s.walk duration overrides days day left found = .ok result) :
    ∃ ahead, result = found.reverse ++ ahead
      ∧ List.Forall₂ (fun d o => o.start = s.slotStart d
            ∧ (s.slotStart d).add duration = .ok o.finish ∧ o.override = overrides.lookup? d)
          (s.keptDays overrides (Date.numbered day.ordinal days) left) ahead := by
  induction days generalizing day left found with
  | zero =>
      cases h
      rw [Date.numbered_zero, keptDays, List.filter_nil, List.take_nil, List.filter_nil]
      exact ⟨[], (List.append_nil _).symm, .nil⟩
  | succ days ih =>
      cases left with
      | zero =>
          cases h
          rw [keptDays, List.take_zero, List.filter_nil]
          exact ⟨[], (List.append_nil _).symm, .nil⟩
      | succ left =>
          rw [walk] at h
          rw [Date.numbered_ordinal]
          split at h
          · rename_i member
            cases here : s.occurrence? duration overrides day with
            | error fault => rw [here] at h; cases h
            | ok occurrence =>
                rw [here] at h
                dsimp only at h
                split at h
                · cases h
                · rename_i next following
                  obtain ⟨ahead, rest, slots⟩ := ih h
                  rw [Date.ordinal_next following] at slots
                  -- A cancelled day adds nothing, but the rest has one less to go as well.
                  rcases occurrence?_eq_ok here with ⟨cancelled, rfl⟩ | ⟨kept, o, rfl, slot⟩
                  · refine ⟨ahead, rest, ?_⟩
                    simpa only [keptDays, List.filter_cons, member, if_true, List.take_succ_cons,
                      cancelled, Bool.not_true, Bool.false_eq_true, if_false] using slots
                  · refine ⟨o :: ahead, ?_, ?_⟩
                    · rw [rest]
                      simp
                    · simpa only [keptDays, List.filter_cons, member, if_true, List.take_succ_cons,
                        kept, Bool.not_false] using .cons slot slots
          · rename_i stranger
            split at h
            · cases h
            · rename_i next following
              obtain ⟨ahead, rest, slots⟩ := ih h
              rw [Date.ordinal_next following] at slots
              refine ⟨ahead, rest, ?_⟩
              simpa only [keptDays, List.filter_cons, Bool.not_eq_true _ ▸ stranger,
                Bool.false_eq_true, if_false] using slots

/-- Of a rule the walk asks only which days are its own. -/
theorem walk_congr {r : Rule} (same : r.occursOn s.anchor = s.rule.occursOn s.anchor) (days : Nat)
    (day : Date) (left : Nat) (found : List Occurrence) :
    ({ s with rule := r } : Series).walk duration overrides days day left found
      = s.walk duration overrides days day left found := by
  have anchored : ({ s with rule := r } : Series).anchor = s.anchor := rfl
  induction days generalizing day left found with
  | zero => rfl
  | succ days ih =>
      cases left with
      | zero => rfl
      | succ left =>
          rw [walk, walk]
          simp only [anchored, same, ih]
          rfl

/-- The end of a rule bears on the last day looked at through its calendar day alone. -/
theorem lastDay_congr {r : Rule} (ends : r.ends.map Stamp.date = s.rule.ends.map Stamp.date)
    (b : Bounds) : ({ s with rule := r } : Series).lastDay b = s.lastDay b := by
  have byDay : ∀ (ends : Option Stamp) (horizon : Date),
      (ends.map fun e => horizon.earlier e.date) = (ends.map Stamp.date).map horizon.earlier :=
    fun ends horizon => (Option.map_map horizon.earlier Stamp.date ends).symm
  simp only [lastDay, byDay, ends]
  rfl

/-- Rules with the same days from the anchor on, the same count and an end on the same day have the same
expansions. -/
theorem expand_congr_of_endDay {r : Rule} (same : r.occursOn s.anchor = s.rule.occursOn s.anchor)
    (count : r.count = s.rule.count) (ends : r.ends.map Stamp.date = s.rule.ends.map Stamp.date)
    (overrides : OverrideSet) (b : Bounds) :
    ({ s with rule := r } : Series).expand overrides b = s.expand overrides b := by
  have limit : ({ s with rule := r } : Series).limit b = s.limit b := by
    rw [Series.limit, Series.limit, Rule.count?, Rule.count?, count]
  rw [expand, expand, limit, lastDay_congr ends]
  simp only [walk_congr same]
  rfl

/-- Rules with the same days from the anchor on and the same bounds have the same expansions. -/
theorem expand_congr {r : Rule} (same : r.occursOn s.anchor = s.rule.occursOn s.anchor)
    (count : r.count = s.rule.count) (ends : r.ends = s.rule.ends) (overrides : OverrideSet)
    (b : Bounds) :
    ({ s with rule := r } : Series).expand overrides b = s.expand overrides b :=
  expand_congr_of_endDay same count (congrArg (Option.map Stamp.date) ends) overrides b

theorem limit_eq_share (s : Series) (b : Bounds) : s.limit b = (s.share b).toNat := by
  unfold limit share Rule.count?
  cases s.rule.count with
  | none => rfl
  | some n => by_cases zero : n = 0 <;> simp [Option.filter, zero]

/-- The days up to the last day looked at are those up to each of the three bounds. -/
theorem lastDay_eq_ok {b : Bounds} {last : Date} (h : s.lastDay b = .ok last) :
    ∃ horizon, s.anchor.addYears b.horizonYears = .ok horizon
      ∧ (s.anchor.through last).filter (s.rule.occursOn s.anchor)
        = s.memberDays b.queryEnd horizon := by
  obtain ⟨horizon, years, rfl⟩ := map_eq_ok.mp h
  refine ⟨horizon, years, ?_⟩
  unfold memberDays
  cases s.rule.ends <;> cases b.queryEnd
  all_goals
    simp only [Option.map_none, Option.map_some, Option.getD_none, Option.getD_some,
      Date.through_earlier, List.filter_filter, Option.all_none, Option.all_some, Bool.true_and,
      Bool.and_true]
  all_goals
    apply List.filter_congr
    intro day _
    simp only [Bool.and_comm]

/-- What an expansion finds, day by day: as many of the first member days as the share allows, less
those that are cancelled. -/
theorem expand_eq_ok {b : Bounds} {found : List Occurrence} (h : s.expand overrides b = .ok found) :
    ∃ duration horizon, s.finish.since s.start = .ok duration
      ∧ s.anchor.addYears b.horizonYears = .ok horizon
      ∧ List.Forall₂ (fun d o => o.start = s.slotStart d
            ∧ (s.slotStart d).add duration = .ok o.finish ∧ o.override = overrides.lookup? d)
          (((s.memberDays b.queryEnd horizon).take (s.share b).toNat).filter fun day =>
            !(overrides.lookup? day).any Override.isCancelled) found := by
  obtain ⟨duration, apart, h⟩ := bind_eq_ok.mp h
  obtain ⟨last, bound, walked⟩ := bind_eq_ok.mp h
  obtain ⟨horizon, years, days⟩ := lastDay_eq_ok bound
  obtain ⟨ahead, rfl, slots⟩ := walk_eq_ok walked
  refine ⟨duration, horizon, apart, years, ?_⟩
  have whole : Date.numbered s.anchor.ordinal (last.ordinal + 1 - s.anchor.ordinal)
      = s.anchor.through last := rfl
  rw [keptDays, whole, days, limit_eq_share] at slots
  exact slots

/-- Between moments without offsets it is slots that an expansion finds. -/
theorem isSlot_of_expand {b : Bounds} {found : List Occurrence} (start : s.start.offset = none)
    (finish : s.finish.offset = none) (h : s.expand overrides b = .ok found) :
    ∃ horizon, s.anchor.addYears b.horizonYears = .ok horizon
      ∧ List.Forall₂ (fun day o => s.IsSlot (overrides.lookup? day) day o)
          (((s.memberDays b.queryEnd horizon).take (s.share b).toNat).filter fun day =>
            !(overrides.lookup? day).any Override.isCancelled) found := by
  obtain ⟨duration, horizon, apart, years, slots⟩ := expand_eq_ok h
  obtain rfl := Except.ok.inj ((Moment.since_of_naive finish start).symm.trans apart)
  refine ⟨horizon, years, slots.imp ?_⟩
  rintro day o ⟨begins, sum, flagged⟩
  obtain ⟨offset, clock⟩ := Moment.add_eq_ok sum
  refine ⟨begins, offset, ?_, flagged⟩
  rw [clock, begins]

/-- Whenever the expansion of a series of moments without offsets ends, it is the list of the
slots of its member days: as many of the first of them as the share of the series allows, less
those whose last override is a cancellation, each flagged with its last override. -/
theorem expand_eq_slots {os : List Override} {b : Bounds} {found : List Occurrence}
    (start : s.start.offset = none) (finish : s.finish.offset = none)
    (h : s.expand (OverrideSet.ofList os) b = .ok found) :
    ∃ horizon, s.anchor.addYears b.horizonYears = .ok horizon
      ∧ List.Forall₂ (fun day o => s.IsSlot (Override.lastFor? os day) day o)
          (((s.memberDays b.queryEnd horizon).take (s.share b).toNat).filter fun day =>
            !(Override.lastFor? os day).any Override.isCancelled) found := by
  obtain ⟨horizon, years, slots⟩ := isSlot_of_expand start finish h
  simp only [OverrideSet.lookup?_ofList] at slots
  exact ⟨horizon, years, slots⟩

/-- Every other day from 1 January 2024, three times, from nine to ten. -/
def everyOtherDay : Series where
  start := ⟨⟨2024, 1, 1, by decide⟩, ⟨9, 0, 0, 0, by decide⟩, none⟩
  finish := ⟨⟨2024, 1, 1, by decide⟩, ⟨10, 0, 0, 0, by decide⟩, none⟩
  rule := { frequency := some .daily, interval := some 2, count := some 3 }

/-- The second day is cancelled, after it had been moved, and the third is modified. -/
def everyOtherDayOverrides : List Override :=
  [⟨⟨2024, 1, 3, by decide⟩, .moved, some ['7']⟩, ⟨⟨2024, 1, 5, by decide⟩, .modified, some ['8']⟩,
    ⟨⟨2024, 1, 3, by decide⟩, .cancelled, none⟩]

def withinAYear : Bounds := { maxInstances := 10, horizonYears := 1 }

/-- An hour of a day, from nine to ten. -/
def nineToTen (day : Date) (override : Option Override) : Occurrence where
  start := ⟨day, ⟨9, 0, 0, 0, by decide⟩, none⟩
  finish := ⟨day, ⟨10, 0, 0, 0, by decide⟩, none⟩
  override

theorem expand_everyOtherDay :
    let found := [nineToTen ⟨2024, 1, 1, by decide⟩ none,
      nineToTen ⟨2024, 1, 5, by decide⟩ (some ⟨⟨2024, 1, 5, by decide⟩, .modified, some ['8']⟩)]
    everyOtherDay.expand (.ofList everyOtherDayOverrides) withinAYear = .ok found
      ∧ ∃ horizon, everyOtherDay.anchor.addYears withinAYear.horizonYears = .ok horizon
        ∧ List.Forall₂
            (fun day o => everyOtherDay.IsSlot (Override.lastFor? everyOtherDayOverrides day) day o)
            (((everyOtherDay.memberDays withinAYear.queryEnd horizon).take
              (everyOtherDay.share withinAYear).toNat).filter fun day =>
                !(Override.lastFor? everyOtherDayOverrides day).any Override.isCancelled) found := by
  have expanded : everyOtherDay.expand (.ofList everyOtherDayOverrides) withinAYear
      = .ok [nineToTen ⟨2024, 1, 1, by decide⟩ none,
        nineToTen ⟨2024, 1, 5, by decide⟩
          (some ⟨⟨2024, 1, 5, by decide⟩, .modified, some ['8']⟩)] := by
    decide +kernel
  exact ⟨expanded, expand_eq_slots rfl rfl expanded⟩

end Recurrence.Series
