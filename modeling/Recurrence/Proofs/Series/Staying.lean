import Recurrence.Proofs.Series.Ceiling
import Recurrence.Proofs.Store.OnDay

/-! Whether an expansion succeeds. It fails only by leaving the calendar, which it does in three ways:
its horizon, the end of a slot that it lists, or the day after the last one it looks at lies behind
the last day of the year 9999. -/

namespace Recurrence

namespace Date

/-- The day before the last of the calendar. -/
def eve : Date := ⟨9999, 12, 30, by decide⟩

theorem ordinal_eve : eve.ordinal + 1 = lastOrdinal := by decide

theorem exists_addYears_iff {d : Date} {n : Int} (later : 1 ≤ n) :
    (∃ e, d.addYears n = .ok e) ↔ (d.year : Int) + n ≤ lastYear := by
  obtain ⟨first, -, firstMonth, lastMonth, firstDay, -⟩ := d.isDate
  constructor
  · rintro ⟨e, sum⟩
    have := e.isDate.2.1
    have := (addYears_eq_ok sum).1
    omega
  · intro inCalendar
    have month := one_le_daysInMonth ((d.year : Int) + n).toNat firstMonth lastMonth
    have fits : fitsWord ((d.year : Int) + n) = true := by
      rw [fitsWord, Bool.and_eq_true, decide_eq_true_eq, decide_eq_true_eq]
      simp only [wordLimit, lastYear] at *
      omega
    have half : ¬ (halfWordLimit : Int) ≤ d.year + n := by
      simp only [halfWordLimit, lastYear] at *
      omega
    have positive : ¬ (d.year : Int) + n < -halfWordLimit := by
      simp only [halfWordLimit]
      omega
    have isDate : IsDate ((d.year : Int) + n).toNat d.month
        (min d.day (daysInMonth ((d.year : Int) + n).toNat d.month)) :=
      ⟨by omega, by omega, firstMonth, lastMonth, by omega, Nat.min_le_right _ _⟩
    unfold addYears
    dsimp only
    rw [fits, Bool.not_true, if_neg Bool.false_ne_true, if_neg half, if_neg positive,
      of?_of_isDate isDate]
    exact ⟨_, rfl⟩

end Date

namespace Series

/-- The number of the day on which the slot of a day ends. -/
def endDay (s : Series) (day : Date) : Int :=
  ((s.slotStart day).clockMicros + (s.finish.clockMicros - s.start.clockMicros)) / microsPerDay

/-- An expansion up to a horizon does not leave the calendar: every slot that it lists ends in it, and it
stops before the last day, at a bound or with its share used up. -/
structure StaysInCalendar (s : Series) (os : List Override) (b : Bounds) (horizon : Date) : Prop where
  slots : ∀ day ∈ (s.memberDays b.queryEnd horizon).take (s.share b).toNat,
    (Override.lastFor? os day).any Override.isCancelled = false → s.endDay day ≤ lastOrdinal
  stops : horizon ≤ Date.eve ∨ (∃ e, s.rule.ends = some e ∧ e.date ≤ Date.eve)
    ∨ (∃ e, b.queryEnd = some e ∧ e.date ≤ Date.eve)
    ∨ s.share b ≤ ((s.anchor.through Date.eve).filter (s.rule.occursOn s.anchor)).length

variable {s : Series} {b : Bounds} {os : List Override} {horizon : Date}

theorem exists_add_iff {day : Date} (first : s.anchor ≤ day) :
    (∃ m, (s.slotStart day).add ⟨s.finish.clockMicros - s.start.clockMicros⟩ = .ok m)
      ↔ s.endDay day ≤ lastOrdinal :=
  @Event.exists_add_iff { id := 0, title := [], start := s.start, finish := s.finish } day first

/-- The walk up to the last day looked at leaves the last day of the calendar alone where a bound or the
share stops it. -/
theorem leavesLastDay_iff {last : Date} (bound : s.lastDay b = .ok last)
    (years : s.anchor.addYears b.horizonYears = .ok horizon) :
    (s.anchor.ordinal + (last.ordinal + 1 - s.anchor.ordinal) ≤ lastOrdinal
        ∨ s.limit b ≤ ((Date.numbered s.anchor.ordinal (lastOrdinal - s.anchor.ordinal)).filter
            (s.rule.occursOn s.anchor)).length)
      ↔ horizon ≤ Date.eve ∨ (∃ e, s.rule.ends = some e ∧ e.date ≤ Date.eve)
        ∨ (∃ e, b.queryEnd = some e ∧ e.date ≤ Date.eve)
        ∨ s.share b ≤ ((s.anchor.through Date.eve).filter (s.rule.occursOn s.anchor)).length := by
  have first := s.anchor.ordinal_le_last
  have number := Date.ordinal_eve
  have upToEve : s.anchor.through Date.eve
      = Date.numbered s.anchor.ordinal (lastOrdinal - s.anchor.ordinal) := by
    rw [Date.through, number]
  have early : s.anchor.ordinal + (last.ordinal + 1 - s.anchor.ordinal) ≤ lastOrdinal
      ↔ last ≤ Date.eve := by
    rw [Date.le_iff]
    omega
  have used : ∀ n : Nat, s.limit b ≤ n ↔ s.share b ≤ (n : Int) := by
    intro n
    rw [limit_eq_share]
    omega
  rw [early, lastDay_le_iff bound years, upToEve, used]
  simp only [or_assoc]

theorem staysInCalendar_iff (naive : s.start.offset = none ∧ s.finish.offset = none)
    (years : s.anchor.addYears b.horizonYears = .ok horizon) :
    s.StaysInCalendar os b horizon ↔ ∃ found, s.expand (.ofList os) b = .ok found := by
  obtain ⟨last, bound⟩ : ∃ last, s.lastDay b = .ok last :=
    ⟨_, map_eq_ok.mpr ⟨horizon, years, rfl⟩⟩
  obtain ⟨_, years', days⟩ := lastDay_eq_ok bound
  obtain rfl := Except.ok.inj (years.symm.trans years')
  have whole : Date.numbered s.anchor.ordinal (last.ordinal + 1 - s.anchor.ordinal)
      = s.anchor.through last := rfl
  have after : ∀ day ∈ (s.memberDays b.queryEnd horizon).take (s.share b).toNat, s.anchor ≤ day := by
    intro day listed
    exact (Date.mem_through.mp (List.mem_filter.mp (List.mem_of_mem_take listed)).1).1
  rw [expand, Moment.since_of_naive naive.2 naive.1, ok_bind, bound, ok_bind, exists_walk_iff,
    leavesLastDay_iff bound years, whole, keptDays, days, limit_eq_share]
  simp only [List.mem_filter, OverrideSet.lookup?_ofList, Bool.not_eq_true', and_imp]
  constructor
  · rintro ⟨slots, stops⟩
    exact ⟨fun day listed kept => (exists_add_iff (after day listed)).mpr (slots day listed kept), stops⟩
  · rintro ⟨slots, stops⟩
    exact ⟨fun day listed kept => (exists_add_iff (after day listed)).mp (slots day listed kept), stops⟩

/-- An expansion between moments without offsets succeeds exactly where its horizon lies in the calendar
and it stays there up to the horizon. It never has more occurrences than the ceiling. -/
theorem exists_expand_iff_staysInCalendar (start : s.start.offset = none)
    (finish : s.finish.offset = none) (years : 1 ≤ b.horizonYears) :
    ((∃ found, s.expand (.ofList os) b = .ok found)
        ↔ (s.anchor.year : Int) + b.horizonYears ≤ lastYear
          ∧ ∀ horizon, s.anchor.addYears b.horizonYears = .ok horizon → s.StaysInCalendar os b horizon)
      ∧ ∀ found, s.expand (.ofList os) b = .ok found → found.length ≤ b.maxInstances.toNat := by
  refine ⟨?_, ?_⟩
  · rw [← Date.exists_addYears_iff years]
    constructor
    · rintro ⟨found, expanded⟩
      obtain ⟨_, horizon, -, inCalendar, -⟩ := expand_eq_ok expanded
      refine ⟨⟨horizon, inCalendar⟩, ?_⟩
      exact fun _ same => (staysInCalendar_iff ⟨start, finish⟩ same).mpr ⟨found, expanded⟩
    · rintro ⟨⟨horizon, inCalendar⟩, stays⟩
      exact (staysInCalendar_iff ⟨start, finish⟩ inCalendar).mp (stays horizon inCalendar)
  · intro found expanded
    obtain ⟨_, horizon, -, -, slots⟩ := expand_eq_ok expanded
    have ceiling : s.share b ≤ b.maxInstances := by
      unfold share
      cases s.rule.count with
      | none => exact Int.le_refl _
      | some n =>
          dsimp only
          split
          · exact Int.le_refl _
          · exact Int.min_le_right _ _
    rw [← List.Forall₂.length_eq slots]
    calc _ ≤ ((s.memberDays b.queryEnd horizon).take (s.share b).toNat).length :=
          List.length_filter_le _ _
      _ ≤ (s.share b).toNat := List.length_take_le _ _
      _ ≤ b.maxInstances.toNat := Int.toNat_le_toNat ceiling

/-- Every day from New Year's Eve of the last year but one, from nine to ten. -/
def lastDays : Series :=
  let day : Date := ⟨9998, 12, 31, by decide⟩
  { start := { everyOtherDay.start with date := day }
    finish := { everyOtherDay.finish with date := day }
    rule := { frequency := some .daily } }

/-- Up to a horizon of a year, on the last day of the calendar, two occurrences are found and 366 are
not; up to a horizon of two years not even one is. -/
theorem exists_expand_lastDays :
    (∃ found, lastDays.expand (.ofList []) { maxInstances := 2, horizonYears := 1 } = .ok found
        ∧ found.length ≤ 2)
      ∧ (¬ ∃ found, lastDays.expand (.ofList []) { maxInstances := 366, horizonYears := 1 } = .ok found)
      ∧ ¬ ∃ found, lastDays.expand (.ofList []) { maxInstances := 1, horizonYears := 2 } = .ok found := by
  have few := @exists_expand_iff_staysInCalendar lastDays { maxInstances := 2, horizonYears := 1 } []
    rfl rfl (by decide)
  have many := @exists_expand_iff_staysInCalendar lastDays { maxInstances := 366, horizonYears := 1 } []
    rfl rfl (by decide)
  have far := @exists_expand_iff_staysInCalendar lastDays { maxInstances := 1, horizonYears := 2 } []
    rfl rfl (by decide)
  have horizon : lastDays.anchor.addYears 1 = .ok ⟨9999, 12, 31, by decide⟩ := by decide +kernel
  have days : ((lastDays.anchor.through Date.eve).filter
      (lastDays.rule.occursOn lastDays.anchor)).length = 365 := by
    decide +kernel
  refine ⟨?_, ?_, ?_⟩
  · obtain ⟨found, expanded⟩ := few.1.mpr ⟨by decide, by
      intro day same
      obtain rfl := Except.ok.inj (horizon.symm.trans same)
      refine ⟨by decide +kernel, .inr (.inr (.inr ?_))⟩
      rw [days]
      decide⟩
    exact ⟨found, expanded, few.2 found expanded⟩
  · rw [many.1]
    rintro ⟨-, stays⟩
    have stops := (stays _ horizon).stops
    rw [days] at stops
    exact absurd stops (by decide)
  · rw [far.1]
    rintro ⟨inCalendar, -⟩
    exact absurd inCalendar (by decide)

end Series

end Recurrence
