import Mathlib.Algebra.Ring.Divisibility.Basic
import Mathlib.Algebra.Ring.Int.Defs
import Recurrence.Proofs.Calendar.Ordinal
import Recurrence.Series.Membership

/-! The days of a rule counted from one of its own days instead of its anchor. They are the same
days, except that weeks begin on the weekday they are counted from: where weeks are passed over, a
day in front of that weekday is counted to the week before. -/

namespace Recurrence

namespace Weekday

theorem ofIndex_mod (n : Nat) : ofIndex (n % 7) = ofIndex n := by
  unfold ofIndex
  rw [Nat.mod_mod]

theorem ofIndex_eq_iff {m n : Nat} : ofIndex m = ofIndex n ↔ m % 7 = n % 7 := by
  have distinct : ∀ i < 7, ∀ j < 7, ofIndex i = ofIndex j → i = j := by decide
  constructor
  · intro same
    rw [← ofIndex_mod m, ← ofIndex_mod n] at same
    exact distinct _ (Nat.mod_lt m (by decide)) _ (Nat.mod_lt n (by decide)) same
  · intro same
    rw [← ofIndex_mod m, ← ofIndex_mod n, same]

end Weekday

theorem Date.weekday_eq_iff {d e : Date} : d.weekday = e.weekday ↔ d.daysSince e % 7 = 0 := by
  rw [weekday, weekday, Weekday.ofIndex_eq_iff, daysSince]
  omega

namespace Rule

variable {r : Rule} {anchor rebased day earlier : Date}

theorem le_of_occursOn (member : r.occursOn anchor day = true) : anchor ≤ day := by
  simp only [occursOn, Bool.and_eq_true, decide_eq_true_eq] at member
  exact member.1.1.1

/-- How many days earlier a day of the rule lies when the rule is counted from its anchor, and not
from another one of its days. -/
def weekShift (r : Rule) (anchor rebased day : Date) : Nat :=
  if r.frequency = some .weekly ∧ r.step ≠ 1 ∧ r.byDay ≠ []
      ∧ day.daysSince anchor % 7 < rebased.daysSince anchor % 7 then 7
  else 0

theorem weekShift_cases (r : Rule) (anchor rebased day : Date) :
    r.weekShift anchor rebased day = 0
      ∨ (r.weekShift anchor rebased day = 7 ∧ r.frequency = some .weekly ∧ r.byDay ≠ []
        ∧ day.daysSince anchor % 7 < rebased.daysSince anchor % 7) := by
  unfold weekShift
  split
  · rename_i moved
    exact .inr ⟨rfl, moved.1, moved.2.2⟩
  · exact .inl rfl

theorem beq_emod_sub {n x y : Int} (whole : (x % n == 0) = true) :
    ((y - x) % n == 0) = (y % n == 0) := by
  rw [beq_iff_eq] at whole
  rw [Bool.eq_iff_iff, beq_iff_eq, beq_iff_eq, ← Int.dvd_iff_emod_eq_zero,
    ← Int.dvd_iff_emod_eq_zero]
  exact dvd_sub_left (Int.dvd_of_emod_eq_zero whole)

theorem daysSince_rebased (anchor rebased day : Date) :
    day.daysSince rebased = day.daysSince anchor - rebased.daysSince anchor := by
  simp only [Date.daysSince]
  omega

/-- Where no day is moved to another week, the weeks are those of the anchor. -/
theorem weeks_rebased (weekly : r.frequency = some .weekly)
    (whole : rebased.daysSince anchor / 7 % r.step = 0)
    (named : r.byDay ≠ [] ∨ rebased.weekday = anchor.weekday)
    (unmoved : r.weekShift anchor rebased day = 0) :
    (day.daysSince rebased / 7 % r.step == 0) = (day.daysSince anchor / 7 % r.step == 0) := by
  by_cases each : r.step = 1
  · simp only [each, Int.emod_one]
  · -- Counted from the anchor, the day comes no earlier in its week than the day of the new count.
    have phase : rebased.daysSince anchor % 7 ≤ day.daysSince anchor % 7 := by
      rcases named with listed | same
      · by_contra late
        rw [weekShift, if_pos ⟨weekly, each, listed, by omega⟩] at unmoved
        cases unmoved
      · have := Date.weekday_eq_iff.mp same
        omega
    have days := daysSince_rebased anchor rebased day
    have apart : day.daysSince rebased / 7
        = day.daysSince anchor / 7 - rebased.daysSince anchor / 7 := by
      omega
    rw [apart, beq_emod_sub (beq_iff_eq.mpr whole)]

/-- A day that is not moved to another week keeps the step counted from one of the rule's days as it
keeps the step counted from the anchor. -/
theorem keepsStep_rebased (member : r.keepsStep anchor rebased = true)
    (unmoved : r.weekShift anchor rebased day = 0) :
    r.keepsStep rebased day = r.keepsStep anchor day := by
  cases unit : r.frequency with
  | none => simp only [keepsStep, unit]
  | some f =>
      cases f with
      | daily =>
          simp only [keepsStep, unit] at member ⊢
          rw [daysSince_rebased anchor, beq_emod_sub member]
      | weekly =>
          simp only [keepsStep, unit, Bool.and_eq_true, Bool.or_eq_true, Bool.not_eq_true',
            List.isEmpty_eq_false_iff, beq_iff_eq] at member ⊢
          obtain ⟨whole, named⟩ := member
          have weeks := weeks_rebased unit whole named unmoved
          rw [weeks]
          rcases named with listed | same
          · rw [List.isEmpty_eq_false_iff.mpr listed, Bool.not_false, Bool.true_or, Bool.true_or]
          · rw [same]
      | monthly =>
          simp only [keepsStep, unit, Bool.and_eq_true] at member ⊢
          obtain ⟨whole, inMonth⟩ := member
          have months : (day.monthIndex : Int) - rebased.monthIndex
              = ((day.monthIndex : Int) - anchor.monthIndex)
                - ((rebased.monthIndex : Int) - anchor.monthIndex) := by
            omega
          rw [months, beq_emod_sub whole]
          split at inMonth
          · rw [beq_iff_eq.mp inMonth]
          · rename_i listed
            rw [if_neg listed, if_neg listed]
      | yearly =>
          simp only [keepsStep, unit, Bool.and_eq_true, beq_iff_eq] at member ⊢
          obtain ⟨⟨whole, month⟩, dayOfMonth⟩ := member
          have years : (day.year : Int) - rebased.year
              = ((day.year : Int) - anchor.year) - ((rebased.year : Int) - anchor.year) := by
            omega
          rw [years, beq_emod_sub (beq_iff_eq.mpr whole), month, dayOfMonth]

theorem keepsStep_weekBefore (weekly : r.frequency = some .weekly) (listed : r.byDay ≠ [])
    (member : r.keepsStep anchor rebased = true)
    (phase : day.daysSince anchor % 7 < rebased.daysSince anchor % 7)
    (back : earlier.ordinal + 7 = day.ordinal) :
    r.keepsStep rebased day = r.keepsStep anchor earlier := by
  have weeks : day.daysSince rebased / 7
      = earlier.daysSince anchor / 7 - rebased.daysSince anchor / 7 := by
    simp only [Date.daysSince] at phase ⊢
    omega
  simp only [keepsStep, weekly, Bool.and_eq_true] at member ⊢
  rw [weeks, beq_emod_sub member.1, List.isEmpty_eq_false_iff.mpr listed, Bool.not_false, Bool.true_or,
    Bool.true_or]

/-- Counting from one of the rule's own days gives a day where counting from the anchor gives it, or
where it gives the day a week earlier if weeks are passed over and the day is in front of the weekday
that was counted from. -/
theorem occursOn_rebased (member : r.occursOn anchor rebased = true) (ahead : rebased ≤ day)
    (back : earlier.ordinal + r.weekShift anchor rebased day = day.ordinal) :
    r.occursOn rebased day = r.occursOn anchor earlier := by
  simp only [occursOn, Bool.and_eq_true, decide_eq_true_eq] at member
  obtain ⟨⟨⟨first, step⟩, -⟩, -⟩ := member
  rw [occursOn, occursOn, decide_eq_true ahead]
  rcases r.weekShift_cases anchor rebased day with unmoved | ⟨week, weekly, listed, phase⟩
  · rw [unmoved, Nat.add_zero, Date.ordinal_inj] at back
    rw [back, keepsStep_rebased step unmoved]
    have late : anchor ≤ day := Nat.le_trans first ahead
    rw [decide_eq_true late]
  · rw [week] at back
    have late : anchor ≤ earlier := by
      rw [Date.le_iff] at first ahead ⊢
      simp only [Date.daysSince] at phase
      omega
    have weekday : earlier.weekday = day.weekday := by
      apply Date.weekday_eq_iff.mpr
      rw [Date.daysSince]
      omega
    have month : ∀ d, r.keepsMonth d = true := by
      intro d
      rw [keepsMonth, weekly]
      rfl
    rw [decide_eq_true late, keepsStep_weekBefore weekly listed step phase back, month, month,
      keepsWeekday, keepsWeekday, weekday]

theorem exists_earlier (r : Rule) (first : anchor ≤ rebased) (ahead : rebased ≤ day) :
    ∃ earlier : Date, earlier.ordinal + r.weekShift anchor rebased day = day.ordinal := by
  rcases r.weekShift_cases anchor rebased day with unmoved | ⟨week, -, -, phase⟩
  · exact ⟨day, by rw [unmoved, Nat.add_zero]⟩
  · rw [Date.le_iff] at first ahead
    simp only [Date.daysSince] at phase
    have := anchor.ordinal_pos
    have := day.ordinal_le_last
    obtain ⟨earlier, -, place⟩ := @Date.exists_ofOrdinal? (day.ordinal - 7) (by omega) (by omega)
    exact ⟨earlier, by omega⟩

/-- No day is moved to another week where weeks are not passed over, or where the new count begins on
the weekday of the old one. -/
theorem weekShift_eq_zero (aligned : r.frequency ≠ some .weekly ∨ r.step = 1 ∨ r.byDay = []
      ∨ (7 : Int) ∣ rebased.daysSince anchor) :
    r.weekShift anchor rebased day = 0 := by
  rw [weekShift, if_neg]
  rintro ⟨weekly, passed, listed, front⟩
  rcases aligned with other | each | unlisted | whole
  · exact other weekly
  · exact passed each
  · exact listed unlisted
  · have start : rebased.daysSince anchor % 7 = 0 := Int.emod_eq_zero_of_dvd whole
    have := Int.emod_nonneg (day.daysSince anchor) (b := 7) (by decide)
    omega

/-- A series may be anchored again on one of its own days: from there on it has the days it had. For
weeks that are counted in twos or more and keep several weekdays, the new anchor has to lie whole weeks
after the old one. -/
theorem occursOn_reanchored {n : Int} (interval : r.interval = some n) (positive : 1 ≤ n)
    (member : r.occursOn anchor rebased = true) (ahead : rebased ≤ day)
    (aligned : r.frequency ≠ some .weekly ∨ n = 1 ∨ r.byDay = []
      ∨ ∃ weeks : Nat, anchor.addDays (7 * weeks : Nat) = .ok rebased) :
    r.occursOn rebased day = r.occursOn anchor day := by
  have step : r.step = n := by
    rw [Rule.step, interval]
    exact if_neg (by omega)
  have unmoved : r.weekShift anchor rebased day = 0 := by
    apply weekShift_eq_zero
    rcases aligned with other | each | unlisted | ⟨weeks, later⟩
    · exact .inl other
    · exact .inr (.inl (step.trans each))
    · exact .inr (.inr (.inl unlisted))
    · have place := Date.addDays_eq_ok_iff.mp later
      have whole : rebased.daysSince anchor = 7 * weeks := by
        rw [Date.daysSince]
        omega
      exact .inr (.inr (.inr (whole ▸ Int.dvd_mul_right 7 weeks)))
  apply occursOn_rebased member ahead
  rw [unmoved, Nat.add_zero]

/-- Mondays and Wednesdays of every other week, anchored again two weeks later. On the Wednesday
between, which is a day of the series too, the weeks would begin anew: from there a Monday comes up that
the series leaves out. -/
theorem occursOn_reanchored_fortnightly :
    let r : Rule := { frequency := some .weekly, interval := some 2, byDay := [['M', 'O'], ['W', 'E']] }
    let anchor : Date := ⟨2024, 1, 1, by decide⟩
    let wednesday : Date := ⟨2024, 1, 3, by decide⟩
    let fortnight : Date := ⟨2024, 1, 15, by decide⟩
    r.occursOn anchor fortnight = true ∧ anchor.addDays (7 * 2 : Nat) = .ok fortnight
      ∧ (∀ day, fortnight ≤ day → r.occursOn fortnight day = r.occursOn anchor day)
      ∧ r.occursOn anchor wednesday = true
      ∧ r.occursOn wednesday ⟨2024, 1, 8, by decide⟩ = true
      ∧ r.occursOn anchor ⟨2024, 1, 8, by decide⟩ = false := by
  intro r anchor wednesday fortnight
  have member : r.occursOn anchor fortnight = true := by decide
  have later : anchor.addDays (7 * 2 : Nat) = .ok fortnight :=
    Date.addDays_eq_ok_iff.mpr (by decide)
  refine ⟨member, later, ?_, by decide, by decide, by decide⟩
  intro day ahead
  exact occursOn_reanchored rfl (by decide) member ahead (.inr (.inr (.inr ⟨2, later⟩)))

end Rule

end Recurrence
