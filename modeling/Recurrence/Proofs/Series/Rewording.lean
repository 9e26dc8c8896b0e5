import Recurrence.Proofs.Calendar.Stepping
import Recurrence.Proofs.Rule.RoundTrip
import Recurrence.Proofs.Series.Listing
import Recurrence.Proofs.Series.Rebasing

/-! One rule in several wordings. A rule may name the day that its anchor tells already, and it may
count in a smaller unit: weeks in days, and years in months. The expansions are the same. -/

namespace Recurrence

theorem Date.monthIndex_sub (d e : Date) :
    (d.monthIndex : Int) - e.monthIndex = 12 * ((d.year : Int) - e.year) + ((d.month : Int) - e.month) := by
  obtain ⟨-, -, first, -⟩ := d.isDate
  obtain ⟨-, -, first', -⟩ := e.isDate
  simp only [monthIndex]
  omega

namespace Rule

/-- The second rule says for an anchor in other words what the first one says. -/
inductive Rewording (anchor : Date) : Rule → Rule → Prop
  /-- Weeks without weekdays keep the weekday of the anchor. -/
  | weekday {r : Rule} (unit : r.frequency = some .weekly) (unnamed : r.byDay = []) :
      Rewording anchor r { r with byDay := [anchor.weekday.code] }
  /-- Months without days keep the day of the anchor. -/
  | monthDay {r : Rule} (unit : r.frequency = some .monthly) (unnamed : r.byMonthDay = []) :
      Rewording anchor r { r with byMonthDay := [(anchor.day : Int)] }
  /-- A week is seven days. Neither unit looks at the days of months and the months of the rule. -/
  | weeks {r : Rule} {n : Int} (unit : r.frequency = some .weekly) (interval : r.interval = some n)
      (positive : 1 ≤ n) (unnamed : r.byDay = []) (byMonthDay byMonth : List Int) :
      Rewording anchor r
        { r with frequency := some .daily, interval := some (7 * n), byMonthDay, byMonth }
  /-- A year is twelve months. Years do not look at the days of months, and months not at the months. -/
  | years {r : Rule} {n : Int} (unit : r.frequency = some .yearly) (interval : r.interval = some n)
      (positive : 1 ≤ n) (unfiltered : r.byMonth = []) (byMonth : List Int) :
      Rewording anchor r
        { r with frequency := some .monthly, interval := some (12 * n), byMonthDay := [], byMonth }

variable {r r' : Rule} {anchor day : Date} {n : Int}

theorem step_of_positive (interval : r.interval = some n) (positive : 1 ≤ n) : r.step = n := by
  rw [step, interval]
  exact if_neg (by omega)

/-- A number of days is whole steps of so many weeks where it is whole weeks and their number is
whole steps. -/
theorem emod_seven_mul_eq_zero_iff (x n : Int) : x % (7 * n) = 0 ↔ x / 7 % n = 0 ∧ x % 7 = 0 := by
  rw [← Int.dvd_iff_emod_eq_zero, ← Int.dvd_iff_emod_eq_zero, ← Int.dvd_iff_emod_eq_zero]
  constructor
  · rintro ⟨k, rfl⟩
    rw [Int.mul_assoc, Int.mul_ediv_cancel_left _ (by decide)]
    exact ⟨Int.dvd_mul_right n k, Int.dvd_mul_right 7 _⟩
  · rintro ⟨⟨k, weeks⟩, ⟨w, rfl⟩⟩
    rw [Int.mul_ediv_cancel_left _ (by decide)] at weeks
    rw [weeks, ← Int.mul_assoc]
    exact Int.dvd_mul_right _ k

/-- Months lie whole steps of so many years apart where their years do and they are the same month of
the year. -/
theorem emod_twelve_mul_eq_zero_iff (years : Int) {months : Int} (low : -12 < months)
    (high : months < 12) (n : Int) :
    (12 * years + months) % (12 * n) = 0 ↔ years % n = 0 ∧ months = 0 := by
  rw [← Int.dvd_iff_emod_eq_zero, ← Int.dvd_iff_emod_eq_zero]
  constructor
  · rintro ⟨k, apart⟩
    rw [Int.mul_assoc] at apart
    have same : months = 0 := by omega
    refine ⟨⟨k, ?_⟩, same⟩
    omega
  · rintro ⟨⟨k, rfl⟩, rfl⟩
    rw [Int.add_zero, ← Int.mul_assoc]
    exact Int.dvd_mul_right _ k

/-- To keep weeks without weekdays is to keep weeks and in them the weekday of the anchor. -/
theorem keepsStep_weekday (unit : r.frequency = some .weekly) (unnamed : r.byDay = [])
    (unit' : r'.frequency = some .weekly) (same : r'.step = r.step)
    (named : r'.byDay = [anchor.weekday.code]) :
    (r'.keepsStep anchor day && r'.keepsWeekday day)
      = (r.keepsStep anchor day && r.keepsWeekday day) := by
  have code : [anchor.weekday.code].contains day.weekday.code = (day.weekday == anchor.weekday) := by
    rw [Bool.eq_iff_iff, List.contains_iff_mem, List.mem_singleton, Weekday.code_inj, beq_iff_eq]
  simp only [keepsStep, keepsWeekday, unit, unit', unnamed, named, code, same, List.isEmpty_nil,
    List.isEmpty_cons, Bool.not_true, Bool.not_false, Bool.true_or, Bool.false_or, Bool.and_true]

theorem keepsStep_monthDay (unit : r.frequency = some .monthly) (unnamed : r.byMonthDay = [])
    (unit' : r'.frequency = some .monthly) (same : r'.step = r.step)
    (named : r'.byMonthDay = [(anchor.day : Int)]) :
    r'.keepsStep anchor day = r.keepsStep anchor day := by
  have number : [(anchor.day : Int)].contains (day.day : Int) = (day.day == anchor.day) := by
    rw [Bool.eq_iff_iff, List.contains_iff_mem, List.mem_singleton, Int.natCast_inj, beq_iff_eq]
  simp only [keepsStep, unit, unit', unnamed, named, number, same, List.isEmpty_nil, List.isEmpty_cons,
    if_true, Bool.false_eq_true, if_false]

theorem keepsStep_weeks (unit : r.frequency = some .weekly) (unnamed : r.byDay = [])
    (unit' : r'.frequency = some .daily) (longer : r'.step = 7 * r.step) :
    r'.keepsStep anchor day = r.keepsStep anchor day := by
  rw [Bool.eq_iff_iff]
  simp only [keepsStep, unit, unit', unnamed, longer, List.isEmpty_nil, Bool.not_true, Bool.false_or,
    Bool.and_eq_true, beq_iff_eq]
  rw [emod_seven_mul_eq_zero_iff, Date.weekday_eq_iff]

theorem keepsStep_years (unit : r.frequency = some .yearly) (unit' : r'.frequency = some .monthly)
    (unnamed : r'.byMonthDay = []) (longer : r'.step = 12 * r.step) :
    r'.keepsStep anchor day = r.keepsStep anchor day := by
  obtain ⟨-, -, low, high, -⟩ := day.isDate
  obtain ⟨-, -, low', high', -⟩ := anchor.isDate
  have sameMonth : (day.month : Int) - anchor.month = 0 ↔ day.month = anchor.month := by
    omega
  rw [Bool.eq_iff_iff]
  simp only [keepsStep, unit, unit', unnamed, longer, List.isEmpty_nil, if_true, Bool.and_eq_true,
    beq_iff_eq]
  rw [Date.monthIndex_sub, emod_twelve_mul_eq_zero_iff _ (by omega) (by omega), sameMonth]

/-- The months filter nothing unless the rule counts years and names some. -/
theorem keepsMonth_eq_true (idle : r.frequency ≠ some .yearly ∨ r.byMonth = []) :
    r.keepsMonth day = true := by
  rw [keepsMonth, Bool.or_eq_true, Bool.or_eq_true, bne_iff_ne, List.isEmpty_iff]
  exact .inl idle

theorem occursOn_congr
    (kept : (r'.keepsStep anchor day && r'.keepsWeekday day)
      = (r.keepsStep anchor day && r.keepsWeekday day))
    (months : r'.keepsMonth day = r.keepsMonth day) :
    r'.occursOn anchor day = r.occursOn anchor day := by
  rw [occursOn, occursOn, Bool.and_assoc (decide _), kept, months, ← Bool.and_assoc (decide _)]

/-- A rule in other words has the days that it had. -/
theorem occursOn_rewording (h : Rewording anchor r r') : r'.occursOn anchor = r.occursOn anchor := by
  funext day
  cases h with
  | weekday unit unnamed =>
      exact occursOn_congr (keepsStep_weekday unit unnamed unit rfl rfl) rfl
  | monthDay unit unnamed =>
      have kept := @keepsStep_monthDay r { r with byMonthDay := [(anchor.day : Int)] } anchor day unit
        unnamed unit rfl rfl
      exact occursOn_congr (congrArg (· && _) kept) rfl
  | @weeks n unit interval positive unnamed byMonthDay byMonth =>
      have longer : ({ r with frequency := some .daily, interval := some (7 * n), byMonthDay, byMonth } :
          Rule).step = 7 * r.step := by
        rw [step_of_positive interval positive]
        exact step_of_positive rfl (by omega)
      have months : r.keepsMonth day = true := by
        apply keepsMonth_eq_true
        rw [unit]
        exact .inl nofun
      refine occursOn_congr (congrArg (· && _) (keepsStep_weeks unit unnamed rfl longer)) ?_
      rw [months]
      exact keepsMonth_eq_true (.inl nofun)
  | @years n unit interval positive unfiltered byMonth =>
      have longer : ({ r with frequency := some .monthly, interval := some (12 * n), byMonthDay := []
                              byMonth := byMonth } : Rule).step = 12 * r.step := by
        rw [step_of_positive interval positive]
        exact step_of_positive rfl (by omega)
      refine occursOn_congr (congrArg (· && _) (keepsStep_years unit rfl rfl longer)) ?_
      rw [keepsMonth_eq_true (.inr unfiltered)]
      exact keepsMonth_eq_true (.inl nofun)

end Rule

/-- A series whose rule is said in other words expands to the same occurrences, whatever its count, its
end, the overrides and the bounds, and fails for the same reason where it fails. -/
theorem Series.expand_rewording {s : Series} {r : Rule} (h : Rule.Rewording s.anchor s.rule r)
    (overrides : OverrideSet) (b : Bounds) :
    ({ s with rule := r } : Series).expand overrides b = s.expand overrides b := by
  have bounds : r.count = s.rule.count ∧ r.ends = s.rule.ends := by
    cases h <;> exact ⟨rfl, rfl⟩
  exact expand_congr (Rule.occursOn_rewording h) bounds.1 bounds.2 overrides b

/-- Every year on 29 February, twice, from nine to ten. -/
def Series.leapDays : Series where
  start := (nineToTen ⟨2024, 2, 29, by decide⟩ none).start
  finish := (nineToTen ⟨2024, 2, 29, by decide⟩ none).finish
  rule := { frequency := some .yearly, interval := some 1, count := some 2 }

/-- Every year on 29 February is every twelfth month on the 29th: the next time is four years later. -/
theorem Series.expand_rewording_leapDays :
    let monthly : Rule := { leapDays.rule with frequency := some .monthly, interval := some (12 * 1) }
    let bounds : Bounds := { horizonYears := 4 }
    let found := [nineToTen ⟨2024, 2, 29, by decide⟩ none, nineToTen ⟨2028, 2, 29, by decide⟩ none]
    Rule.Rewording leapDays.anchor leapDays.rule monthly
      ∧ leapDays.expand (.ofList []) bounds = .ok found
      ∧ ({ leapDays with rule := monthly } : Series).expand (.ofList []) bounds = .ok found := by
  intro monthly bounds found
  have reworded : Rule.Rewording leapDays.anchor leapDays.rule monthly :=
    .years rfl rfl (by decide) rfl []
  have expanded : leapDays.expand (.ofList []) bounds = .ok found := by
    decide +kernel
  exact ⟨reworded, expanded, (expand_rewording reworded (.ofList []) bounds).trans expanded⟩

end Recurrence
