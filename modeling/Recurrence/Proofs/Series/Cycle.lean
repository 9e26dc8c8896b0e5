import Recurrence.Proofs.Calendar.Stepping
import Recurrence.Proofs.Series.Rebasing

/-! The calendar repeats itself after 400 years, which are 146097 days and so a whole number of weeks. A
day that many days later has the same month and day, the same weekday, and a year 400 higher, so a
rule finds as much between a day and its anchor when both are moved. Rules that count days or weeks
look at nothing else, and may be moved by any weeks. -/

namespace Recurrence

theorem isLeapYear_add_cycles (y k : Nat) : isLeapYear (y + 400 * k) = isLeapYear y := by
  rw [Bool.eq_iff_iff, isLeapYear_iff, isLeapYear_iff]
  omega

theorem daysBeforeYear_add_cycles {y : Nat} (h : 1 ≤ y) (k : Nat) :
    daysBeforeYear (y + 400 * k) = daysBeforeYear y + 146097 * k := by
  unfold daysBeforeYear
  omega

namespace Date

variable {d e : Date} {n : Int}

/-- Whole cycles later the year is as many times 400 higher, and nothing else is different. -/
theorem parts_of_cycles {k : Nat} (h : e.ordinal = d.ordinal + 146097 * k) :
    e.year = d.year + 400 * k ∧ e.month = d.month ∧ e.day = d.day := by
  obtain ⟨firstYear, -, firstMonth, lastMonth, firstDay, lastDay⟩ := d.isDate
  have before := daysBeforeYear_add_cycles firstYear k
  have inCalendar : d.year + 400 * k ≤ lastYear := by
    by_contra beyond
    have := e.ordinal_le_last
    have := d.ordinal_bounds
    have whole : lastOrdinal ≤ daysBeforeYear (d.year + 400 * k) := by
      unfold lastYear at beyond
      unfold lastOrdinal daysBeforeYear
      omega
    omega
  have isDate : IsDate (d.year + 400 * k) d.month d.day := by
    rw [IsDate, daysInMonth_congr (isLeapYear_add_cycles _ k)]
    exact ⟨by omega, inCalendar, firstMonth, lastMonth, firstDay, lastDay⟩
  have same : (⟨_, _, _, isDate⟩ : Date) = e := by
    apply ordinal_inj.mp
    rw [h]
    simp only [ordinal, before, daysBeforeMonth_congr (isLeapYear_add_cycles _ k)]
    omega
  subst same
  exact ⟨rfl, rfl, rfl⟩

theorem parts_addDays_cycles {k : Int} (h : d.addDays (146097 * k) = .ok e) :
    (e.year : Int) = d.year + 400 * k ∧ e.month = d.month ∧ e.day = d.day := by
  have place := addDays_eq_ok_iff.mp h
  rcases Int.le_total 0 k with later | earlier
  · obtain ⟨k, rfl⟩ := Int.eq_ofNat_of_zero_le later
    obtain ⟨year, month, day⟩ := @parts_of_cycles d e k (by omega)
    exact ⟨by omega, month, day⟩
  · obtain ⟨k, rfl⟩ := Int.exists_eq_neg_ofNat earlier
    obtain ⟨year, month, day⟩ := @parts_of_cycles e d k (by omega)
    exact ⟨by omega, month.symm, day.symm⟩

theorem weekday_addDays_weeks (h : d.addDays n = .ok e) (weeks : 7 ∣ n) : e.weekday = d.weekday := by
  have place := addDays_eq_ok_iff.mp h
  rw [weekday_eq_iff, daysSince]
  omega

theorem daysSince_addDays {d' e' : Date} (hd : d.addDays n = .ok d') (he : e.addDays n = .ok e') :
    d'.daysSince e' = d.daysSince e := by
  have first := addDays_eq_ok_iff.mp hd
  have second := addDays_eq_ok_iff.mp he
  rw [daysSince, daysSince]
  omega

end Date

namespace Rule

variable {r : Rule} {anchor day anchor' day' : Date} {n : Int}

/-- A rule sees in two pairs of days the same where the days lie as far apart, on the same weekdays, and for
months and years at the same places in the calendar. -/
theorem occursOn_alike (step : r.keepsStep anchor' day' = r.keepsStep anchor day)
    (distance : day'.daysSince anchor' = day.daysSince anchor) (weekday : day'.weekday = day.weekday)
    (month : r.frequency = some .yearly → day'.month = day.month) :
    r.occursOn anchor' day' = r.occursOn anchor day := by
  have order : anchor' ≤ day' ↔ anchor ≤ day := by
    rw [Date.daysSince, Date.daysSince] at distance
    rw [Date.le_iff, Date.le_iff]
    omega
  have months : r.keepsMonth day' = r.keepsMonth day := by
    unfold keepsMonth
    by_cases yearly : r.frequency = some .yearly
    · rw [month yearly]
    · simp only [bne_iff_ne.mpr yearly, Bool.true_or]
  rw [occursOn, occursOn, decide_eq_decide.mpr order, step, keepsWeekday, weekday, months, keepsWeekday]

/-- Days and weeks are counted alike after any number of weeks. -/
theorem keepsStep_addDays_weeks (short : r.frequency = some .daily ∨ r.frequency = some .weekly)
    (weeks : 7 ∣ n) (ha : anchor.addDays n = .ok anchor') (hd : day.addDays n = .ok day') :
    r.keepsStep anchor' day' = r.keepsStep anchor day := by
  rcases short with daily | weekly
  · simp only [keepsStep, daily, Date.daysSince_addDays hd ha]
  · simp only [keepsStep, weekly, Date.daysSince_addDays hd ha, Date.weekday_addDays_weeks hd weeks,
      Date.weekday_addDays_weeks ha weeks]

/-- Months and years are counted alike after whole cycles, and so are days and weeks. -/
theorem keepsStep_addDays_cycles {k : Int} (ha : anchor.addDays (146097 * k) = .ok anchor')
    (hd : day.addDays (146097 * k) = .ok day') :
    r.keepsStep anchor' day' = r.keepsStep anchor day := by
  have weeks : (7 : Int) ∣ 146097 * k := by
    omega
  obtain ⟨anchorYear, anchorMonth, anchorDay⟩ := Date.parts_addDays_cycles ha
  obtain ⟨year, month, dayOfMonth⟩ := Date.parts_addDays_cycles hd
  cases unit : r.frequency with
  | none => simp only [keepsStep, unit]
  | some f =>
      cases f with
      | daily => exact keepsStep_addDays_weeks (.inl unit) weeks ha hd
      | weekly => exact keepsStep_addDays_weeks (.inr unit) weeks ha hd
      | monthly =>
          have months : (day'.monthIndex : Int) - anchor'.monthIndex
              = (day.monthIndex : Int) - anchor.monthIndex := by
            simp only [Date.monthIndex, month, anchorMonth]
            omega
          simp only [keepsStep, unit, months, dayOfMonth, anchorDay]
      | yearly =>
          have years : (day'.year : Int) - anchor'.year = (day.year : Int) - anchor.year := by
            omega
          simp only [keepsStep, unit, years, month, anchorMonth, dayOfMonth, anchorDay]

/-- Moved by whole cycles of the calendar, a day belongs to a rule counted from the moved anchor where the
day belonged to it counted from the anchor. Rules of days and weeks may be moved by any number of
weeks, forward or back. -/
theorem occursOn_moved (r : Rule) (anchor day : Date) :
    (∀ (k : Int) (anchor' day' : Date), anchor.addDays (146097 * k) = .ok anchor' →
        day.addDays (146097 * k) = .ok day' → r.occursOn anchor' day' = r.occursOn anchor day)
      ∧ (r.frequency = some .daily ∨ r.frequency = some .weekly →
        ∀ (j : Int) (anchor' day' : Date), anchor.addDays (7 * j) = .ok anchor' →
          day.addDays (7 * j) = .ok day' → r.occursOn anchor' day' = r.occursOn anchor day) := by
  constructor
  · intro k anchor' day' ha hd
    have weeks : (7 : Int) ∣ 146097 * k := by omega
    obtain ⟨-, month, -⟩ := Date.parts_addDays_cycles hd
    exact occursOn_alike (keepsStep_addDays_cycles ha hd) (Date.daysSince_addDays hd ha)
      (Date.weekday_addDays_weeks hd weeks) fun _ => month
  · intro short j anchor' day' ha hd
    have weeks : (7 : Int) ∣ 7 * j := Int.dvd_mul_right 7 j
    have notYearly : r.frequency ≠ some .yearly := by
      rcases short with daily | weekly
      · rw [daily]
        decide
      · rw [weekly]
        decide
    exact occursOn_alike (keepsStep_addDays_weeks short weeks ha hd) (Date.daysSince_addDays hd ha)
      (Date.weekday_addDays_weeks hd weeks) fun yearly => absurd yearly notYearly

/-- The leap days of every fourth year are missing in 2100 and again in 2500. Every other Monday counted from
a Wednesday in March keeps its place when both are moved back by three weeks, to where the end of
February lies between them. -/
theorem occursOn_moved_leapDays :
    let leapDays : Rule := { frequency := some .yearly, interval := some 4 }
    let mondays : Rule := { frequency := some .weekly, interval := some 2, byDay := [['M', 'O']] }
    leapDays.occursOn ⟨2400, 2, 29, by decide⟩ ⟨2504, 2, 29, by decide⟩ = true
      ∧ mondays.occursOn ⟨2024, 2, 14, by decide⟩ ⟨2024, 3, 4, by decide⟩ = true := by
  intro leapDays mondays
  have leapDay : leapDays.occursOn ⟨2000, 2, 29, by decide⟩ ⟨2104, 2, 29, by decide⟩ = true := by decide
  have monday : mondays.occursOn ⟨2024, 3, 6, by decide⟩ ⟨2024, 3, 25, by decide⟩ = true := by decide
  constructor
  · refine ((occursOn_moved leapDays _ _).1 1 _ _ ?_ ?_).trans leapDay
    all_goals exact Date.addDays_eq_ok_iff.mpr (by decide)
  · refine ((occursOn_moved mondays _ _).2 (.inr rfl) (-3) _ _ ?_ ?_).trans monday
    all_goals exact Date.addDays_eq_ok_iff.mpr (by decide)

end Rule

end Recurrence
