import Recurrence.Proofs.Series.Presence

/-! What a ceiling does to an expansion. The walk counts the days of the rule from the anchor on, so
the ceiling leaves the first days of a series, wherever the window lies in which they are shown. -/

namespace Recurrence

/-- The moment lies between two others on the common clock. -/
def Moment.isBetween (m first last : Moment) : Bool :=
  decide (first.clockMicros ≤ m.clockMicros) && decide (m.clockMicros ≤ last.clockMicros)

namespace Series

/-- The days of the rule from the anchor up to a day, its end respected and its count not. -/
def ruleDays (s : Series) (last : Date) : List Date :=
  (s.anchor.through last).filter fun day =>
    s.rule.ends.all (fun e => decide (day ≤ e.date)) && s.rule.occursOn s.anchor day

/-- The days of the series up to a day: those of its rule, and no more than it counts. -/
def occurrenceDays (s : Series) (last : Date) : List Date :=
  match s.rule.count? with
  | none => s.ruleDays last
  | some n => (s.ruleDays last).take n.toNat

/-- The days of the series up to a day as far as a ceiling lets the walk come. -/
def firstDays (s : Series) (ceiling : Int) (last : Date) : List Date :=
  (s.occurrenceDays last).take ceiling.toNat

/-- Those of some days that are not cancelled and whose slots start in a window. -/
def shownDays (s : Series) (os : List Override) (first last : Moment) (days : List Date) :
    List Date :=
  (days.filter fun day => !(Override.lastFor? os day).any Override.isCancelled).filter fun day =>
    (s.slotStart day).isBetween first last

/-- Occurrences for days: one for each, in its slot, flagged with the last override, in order. -/
def Lists (s : Series) (os : List Override) (days : List Date) (listed : List Occurrence) : Prop :=
  List.Forall₂ (fun day o => s.IsSlot (Override.lastFor? os day) day o) days listed

/-- The walk up to the end of a query looks at nothing behind a day: the query or the rule has ended,
or the limit is used up. -/
def StopsBy (s : Series) (ceiling : Int) (queryEnd day : Date) : Prop :=
  queryEnd ≤ day ∨ (∃ e, s.rule.ends = some e ∧ e.date ≤ day)
    ∨ s.limit { maxInstances := ceiling } ≤ (s.ruleDays day).length

variable {s : Series} {duration : Duration} {b : Bounds} {os : List Override} {horizon last : Date}
  {queryEnd : Stamp}

theorem memberDays_eq (upTo : queryEnd.date ≤ horizon) :
    s.memberDays (some queryEnd) horizon = s.ruleDays queryEnd.date := by
  have shorter : horizon.earlier queryEnd.date = queryEnd.date := by
    rw [Date.le_iff] at upTo
    apply Date.ordinal_inj.mp
    rw [Date.ordinal_earlier]
    exact Nat.min_eq_right upTo
  rw [memberDays, ruleDays, ← shorter, Date.through_earlier, List.filter_filter]
  apply List.filter_congr
  intro day _
  simp only [Option.all_some, Bool.and_comm, Bool.and_left_comm]

theorem take_share (s : Series) (b : Bounds) (last : Date) :
    (s.ruleDays last).take (s.share b).toNat = s.firstDays b.maxInstances last := by
  rw [← limit_eq_share, limit, firstDays, occurrenceDays]
  cases s.rule.count? with
  | none => rfl
  | some n =>
      have least : (min n b.maxInstances).toNat = min b.maxInstances.toNat n.toNat := by omega
      dsimp only
      rw [List.take_take, least]

/-- The days left to the walk are those up to the ceiling that are not cancelled. -/
theorem keptDays_eq (bound : s.lastDay { b with queryEnd := some queryEnd } = .ok last)
    (years : s.anchor.addYears b.horizonYears = .ok horizon) (upTo : queryEnd.date ≤ horizon) :
    s.keptDays (.ofList os) (s.anchor.through last) (s.limit { b with queryEnd := some queryEnd })
      = (s.firstDays b.maxInstances queryEnd.date).filter fun day =>
          !(Override.lastFor? os day).any Override.isCancelled := by
  obtain ⟨_, years', days⟩ := lastDay_eq_ok bound
  obtain rfl := Except.ok.inj (years.symm.trans years')
  simp only [keptDays, OverrideSet.lookup?_ofList]
  rw [days, memberDays_eq upTo, limit_eq_share, take_share]

/-- The last day looked at is the first of the three bounds. -/
theorem lastDay_le_iff {day : Date} (bound : s.lastDay b = .ok last)
    (years : s.anchor.addYears b.horizonYears = .ok horizon) :
    last ≤ day ↔ horizon ≤ day ∨ (∃ e, s.rule.ends = some e ∧ e.date ≤ day)
      ∨ ∃ e, b.queryEnd = some e ∧ e.date ≤ day := by
  obtain ⟨_, years', rfl⟩ := map_eq_ok.mp bound
  obtain rfl := Except.ok.inj (years.symm.trans years')
  cases s.rule.ends <;> cases b.queryEnd
  all_goals
    simp only [Option.map_none, Option.map_some, Option.getD_none, Option.getD_some, Date.le_iff,
      Date.ordinal_earlier, Option.some.injEq, reduceCtorEq, false_and, exists_false,
      exists_eq_left', or_false, false_or]
  all_goals omega

/-- The days of the rule up to a day are among those in front of the last day of the calendar. -/
theorem ruleDays_eq_filter {day : Date} (inside : day.ordinal < lastOrdinal) :
    s.ruleDays day
      = ((Date.numbered s.anchor.ordinal (lastOrdinal - s.anchor.ordinal)).filter
          (s.rule.occursOn s.anchor)).filter fun d =>
            decide (d ≤ day) && s.rule.ends.all (fun e => decide (d ≤ e.date)) := by
  have upTo : min (lastOrdinal - s.anchor.ordinal) (day.ordinal + 1 - s.anchor.ordinal)
      = day.ordinal + 1 - s.anchor.ordinal := by
    omega
  rw [ruleDays, Date.through, ← upTo, ← Date.numbered_filter_le, List.filter_filter,
    List.filter_filter]
  apply List.filter_congr
  intro d _
  simp only [Bool.and_comm, Bool.and_left_comm]

/-- A walk that leaves the last day of the calendar alone is one that stops by an earlier day. -/
theorem exists_stop_iff (bound : s.lastDay { b with queryEnd := some queryEnd } = .ok last)
    (years : s.anchor.addYears b.horizonYears = .ok horizon) (upTo : queryEnd.date ≤ horizon) :
    (∃ day : Date, day.ordinal < lastOrdinal ∧ s.StopsBy b.maxInstances queryEnd.date day)
      ↔ s.anchor.ordinal + (last.ordinal + 1 - s.anchor.ordinal) ≤ lastOrdinal
        ∨ s.limit { b with queryEnd := some queryEnd }
          ≤ ((Date.numbered s.anchor.ordinal (lastOrdinal - s.anchor.ordinal)).filter
            (s.rule.occursOn s.anchor)).length := by
  have first := s.anchor.ordinal_le_last
  have upper := last.ordinal_le_last
  have earliest : ∀ day : Date, last ≤ day
      ↔ queryEnd.date ≤ day ∨ ∃ e, s.rule.ends = some e ∧ e.date ≤ day := by
    intro day
    rw [lastDay_le_iff bound years]
    constructor
    · rintro (behind | ended | ⟨_, ⟨⟩, asked⟩)
      · exact .inl (Nat.le_trans upTo behind)
      · exact .inr ended
      · exact .inl asked
    · rintro (asked | ended)
      · exact .inr (.inr ⟨_, rfl, asked⟩)
      · exact .inr (.inl ended)
  constructor
  · rintro ⟨day, inside, stops⟩
    by_cases passed : last ≤ day
    · rw [Date.le_iff] at passed
      omega
    · -- The limit is used up by the days of the rule up to that day.
      have used : s.limit { maxInstances := b.maxInstances } ≤ (s.ruleDays day).length := by
        rcases stops with asked | ended | used
        · exact absurd ((earliest day).mpr (.inl asked)) passed
        · exact absurd ((earliest day).mpr (.inr ended)) passed
        · exact used
      rw [ruleDays_eq_filter inside] at used
      exact .inr (Nat.le_trans used (List.length_filter_le _ _))
  · intro room
    by_cases before : last.ordinal < lastOrdinal
    · refine ⟨last, before, ?_⟩
      rcases (earliest last).mp (Nat.le_refl _) with asked | ended
      · exact .inl asked
      · exact .inr (.inl ended)
    · have number : (⟨9999, 12, 30, by decide⟩ : Date).ordinal + 1 = lastOrdinal := by decide
      generalize (⟨9999, 12, 30, by decide⟩ : Date) = eve at number
      refine ⟨eve, by omega, .inr (.inr ?_)⟩
      have used := room.resolve_left (by omega)
      have all : s.ruleDays eve
          = (Date.numbered s.anchor.ordinal (lastOrdinal - s.anchor.ordinal)).filter
            (s.rule.occursOn s.anchor) := by
        rw [ruleDays_eq_filter (by omega), List.filter_eq_self]
        intro d member
        have earlier := (Date.mem_numbered.mp (List.mem_filter.mp member).1).2
        rw [Bool.and_eq_true, decide_eq_true_eq, Option.all_eq_true, Date.le_iff]
        refine ⟨by omega, ?_⟩
        intro e ends
        have late := (earliest e.date).mpr (.inr ⟨e, ends, Nat.le_refl _⟩)
        rw [decide_eq_true_eq]
        rw [Date.le_iff] at late ⊢
        omega
      rw [all]
      exact used

/-- An expansion up to the end of a query within the horizon succeeds where the slots it lists lie in
the calendar, if it stops before the last day of the calendar. -/
theorem exists_expand_iff (apart : s.finish.since s.start = .ok duration)
    (years : s.anchor.addYears b.horizonYears = .ok horizon) (upTo : queryEnd.date ≤ horizon) :
    (∃ found, s.expand (.ofList os) { b with queryEnd := some queryEnd } = .ok found)
      ↔ (∀ day ∈ s.firstDays b.maxInstances queryEnd.date,
          (Override.lastFor? os day).any Override.isCancelled = false →
          ∃ m, (s.slotStart day).add duration = .ok m)
        ∧ ∃ day : Date, day.ordinal < lastOrdinal
          ∧ s.StopsBy b.maxInstances queryEnd.date day := by
  obtain ⟨last, bound⟩ : ∃ last, s.lastDay { b with queryEnd := some queryEnd } = .ok last :=
    ⟨_, map_eq_ok.mpr ⟨horizon, years, rfl⟩⟩
  have kept := @keptDays_eq s b os horizon last queryEnd bound years upTo
  rw [Date.through] at kept
  rw [expand, apart, ok_bind, bound, ok_bind, exists_walk_iff, kept, exists_stop_iff bound years upTo]
  simp only [List.mem_filter, Bool.not_eq_true', and_imp]

/-- What an expansion up to the end of a query lists, within the horizon: the first days of the series
up to the ceiling, less those that are cancelled. -/
theorem lists_of_expand {found : List Occurrence} (start : s.start.offset = none)
    (finish : s.finish.offset = none) (years : s.anchor.addYears b.horizonYears = .ok horizon)
    (upTo : queryEnd.date ≤ horizon)
    (h : s.expand (.ofList os) { b with queryEnd := some queryEnd } = .ok found) :
    s.Lists os ((s.firstDays b.maxInstances queryEnd.date).filter fun day =>
      !(Override.lastFor? os day).any Override.isCancelled) found := by
  obtain ⟨_, years', slots⟩ := isSlot_of_expand start finish h
  obtain rfl := Except.ok.inj (years.symm.trans years')
  rw [memberDays_eq upTo, take_share] at slots
  simp only [OverrideSet.lookup?_ofList] at slots
  exact slots

/-- A window keeps the days whose slots start in it. -/
theorem Lists.within {days : List Date} {listed : List Occurrence} (h : s.Lists os days listed)
    (first last : Moment) :
    s.Lists os (days.filter fun day => (s.slotStart day).isBetween first last)
      (listed.filter (Occurrence.isWithin first last)) := by
  induction h with
  | nil => exact .nil
  | @cons day o days listed slot _ ih =>
      have same : (s.slotStart day).isBetween first last = o.isWithin first last := by
        rw [Occurrence.isWithin, slot.start]
        rfl
      rw [List.filter_cons, List.filter_cons, same]
      cases o.isWithin first last with
      | true => exact List.Forall₂.cons slot ih
      | false => exact ih

/-- Days in order are listed in order, none of them twice. -/
theorem Lists.sorted {days : List Date} {listed : List Occurrence} (h : s.Lists os days listed)
    (sorted : days.Pairwise (· < ·)) : listed.Pairwise fun o o' => o.start.date < o'.start.date := by
  have dates := dates_of_slots h fun d o slot => by rw [slot.start]
  rw [← dates, List.pairwise_map] at sorted
  exact sorted

theorem firstDays_sublist (s : Series) (ceiling : Int) (last : Date) :
    (s.firstDays ceiling last).Sublist (s.anchor.through last) := by
  have ruled : (s.ruleDays last).Sublist (s.anchor.through last) := List.filter_sublist
  refine (List.take_sublist _ _).trans ?_
  rw [occurrenceDays]
  cases s.rule.count? with
  | none => exact ruled
  | some n => exact (List.take_sublist _ _).trans ruled

theorem shownDays_sorted (s : Series) (os : List Override) (first last : Moment) (ceiling : Int)
    (upTo : Date) : (s.shownDays os first last (s.firstDays ceiling upTo)).Pairwise (· < ·) :=
  (((Date.through_sorted _ _).sublist (s.firstDays_sublist ceiling upTo)).filter _).filter _

/-- A ceiling that the days up to the end of the window do not exceed leaves all of them. -/
theorem firstDays_eq_self {ceiling : Int} (h : ((s.occurrenceDays last).length : Int) ≤ ceiling) :
    s.firstDays ceiling last = s.occurrenceDays last :=
  List.take_of_length_le (by omega)

end Series

end Recurrence
