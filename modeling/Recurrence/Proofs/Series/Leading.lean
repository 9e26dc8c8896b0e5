import Mathlib.Logic.Function.Iterate
import Recurrence.Proofs.Calendar.Stepping
import Recurrence.Proofs.Series.Rebasing

/-! The days of a rule built forward from the anchor. A number of steps leads to a day, to a week that
begins on the anchor's weekday, to a calendar month, or to a year, and the rule keeps its days there.
A day belongs to the rule exactly where such steps lead to it. -/

namespace Recurrence

/-- The calendar month after a month; a month is its year and its number there. -/
def monthAfter : Nat × Nat → Nat × Nat
  | (year, month) => if month < 12 then (year, month + 1) else (year + 1, 1)

/-- The months of all years in one count. -/
def monthNumber (m : Nat × Nat) : Nat := m.1 * 12 + m.2

/-- A month that a calendar has. -/
def IsMonth (m : Nat × Nat) : Prop := 1 ≤ m.2 ∧ m.2 ≤ 12

theorem isMonth_monthAfter {m : Nat × Nat} (h : IsMonth m) :
    IsMonth (monthAfter m) ∧ monthNumber (monthAfter m) = monthNumber m + 1 := by
  obtain ⟨year, month⟩ := m
  simp only [IsMonth, monthAfter, monthNumber] at h ⊢
  split <;> omega

/-- So many months later the count is higher by as many. -/
theorem isMonth_iterate (n : Nat) {m : Nat × Nat} (h : IsMonth m) :
    IsMonth (monthAfter^[n] m) ∧ monthNumber (monthAfter^[n] m) = monthNumber m + n := by
  induction n with
  | zero => exact ⟨h, rfl⟩
  | succ n ih =>
      obtain ⟨there, count⟩ := isMonth_monthAfter ih.1
      rw [Function.iterate_succ_apply']
      refine ⟨there, ?_⟩
      rw [count, ih.2, Nat.add_assoc]

theorem monthNumber_inj {m k : Nat × Nat} (hm : IsMonth m) (hk : IsMonth k) :
    monthNumber m = monthNumber k ↔ m = k := by
  simp only [IsMonth, monthNumber, Prod.ext_iff] at *
  omega

namespace Date

/-- The calendar month that holds a day. -/
def inMonth (d : Date) : Nat × Nat := (d.year, d.month)

theorem isMonth_inMonth (d : Date) : IsMonth d.inMonth := ⟨d.isDate.2.2.1, d.isDate.2.2.2.1⟩

theorem iterate_monthAfter_eq_iff {d e : Date} {n : Nat} :
    monthAfter^[n] d.inMonth = e.inMonth ↔ (e.monthIndex : Int) - d.monthIndex = n := by
  obtain ⟨later, count⟩ := isMonth_iterate n d.isMonth_inMonth
  have first := d.isMonth_inMonth.1
  have second := e.isMonth_inMonth.1
  rw [← monthNumber_inj later e.isMonth_inMonth, count]
  simp only [monthNumber, inMonth, monthIndex] at *
  omega

theorem monthIndex_mono {d e : Date} (h : d ≤ e) : d.monthIndex ≤ e.monthIndex := by
  have first := d.isMonth_inMonth
  have second := e.isMonth_inMonth
  rw [le_iff_parts] at h
  simp only [IsMonth, inMonth, monthIndex] at *
  omega

end Date

/-- What is no less than nothing is a whole number of parts where nothing is left over. -/
theorem emod_eq_zero_iff_exists {x : Int} (h : 0 ≤ x) (n : Nat) :
    x % (n : Int) = 0 ↔ ∃ k : Nat, x = (k * n : Nat) := by
  constructor
  · intro whole
    have parts : x / n * n = x := Int.ediv_mul_cancel (Int.dvd_of_emod_eq_zero whole)
    have nonneg : 0 ≤ x / n := Int.ediv_nonneg h (Int.natCast_nonneg n)
    refine ⟨(x / n).toNat, ?_⟩
    rw [Int.natCast_mul, Int.toNat_of_nonneg nonneg, parts]
  · rintro ⟨k, rfl⟩
    rw [Int.natCast_mul, Int.mul_emod_left]

namespace Rule

variable {r : Rule} {anchor day : Date}

/-- A number of units of the frequency leads from the anchor to the day. A week holds seven days from
the weekday of the anchor on, of which a rule without weekdays keeps the first. A month keeps the days
of the rule, or that of the anchor; one that is too short for it keeps none. -/
def LeadsTo (r : Rule) (anchor : Date) (units : Nat) (day : Date) : Prop :=
  match r.frequency with
  | none => False
  | some .daily => anchor.addDays units = .ok day
  | some .weekly =>
    ∃ first, anchor.addDays (7 * units : Nat) = .ok first
      ∧ ∃ i : Nat, i < 7 ∧ first.addDays i = .ok day ∧ (r.byDay = [] → i = 0)
  | some .monthly =>
    anchor ≤ day ∧ monthAfter^[units] anchor.inMonth = day.inMonth
      ∧ if r.byMonthDay = [] then day.day = anchor.day else (day.day : Int) ∈ r.byMonthDay
  | some .yearly =>
    day.year = anchor.year + units ∧ day.month = anchor.month ∧ day.day = anchor.day

/-- Weeks are passed over as a whole: the rest of the days between is the place in the week. -/
theorem leadsTo_weekly_iff (weekly : r.frequency = some .weekly) {units : Nat} :
    r.LeadsTo anchor units day ↔ anchor ≤ day ∧ day.daysSince anchor / 7 = units
      ∧ (r.byDay = [] → day.weekday = anchor.weekday) := by
  simp only [LeadsTo, weekly, Date.addDays_eq_ok_iff, Date.weekday_eq_iff, Date.le_iff, Date.daysSince]
  constructor
  · rintro ⟨first, start, i, inWeek, place, alone⟩
    refine ⟨by omega, by omega, fun unlisted => ?_⟩
    have := alone unlisted
    omega
  · rintro ⟨ahead, weeks, sameWeekday⟩
    have := anchor.ordinal_pos
    have := day.ordinal_le_last
    obtain ⟨first, -, start⟩ := @Date.exists_ofOrdinal? (anchor.ordinal + 7 * units) (by omega)
      (by omega)
    refine ⟨first, by omega, (day.ordinal - first.ordinal : Nat), by omega, by omega, ?_⟩
    intro unlisted
    have := sameWeekday unlisted
    omega

theorem le_of_leadsTo {units : Nat} (h : r.LeadsTo anchor units day) : anchor ≤ day := by
  cases unit : r.frequency with
  | none =>
      rw [LeadsTo, unit] at h
      exact h.elim
  | some f =>
      cases f with
      | daily =>
          rw [LeadsTo, unit] at h
          have := Date.addDays_eq_ok_iff.mp h
          rw [Date.le_iff]
          omega
      | weekly => exact ((leadsTo_weekly_iff unit).mp h).1
      | monthly =>
          rw [LeadsTo, unit] at h
          exact h.1
      | yearly =>
          simp only [LeadsTo, unit] at h
          rw [Date.le_iff_parts]
          omega

/-- What the remainders of the differences tell is what whole steps forward lead to. -/
theorem keepsStep_iff {n : Nat} (step : r.step = n) (ahead : anchor ≤ day) :
    r.keepsStep anchor day = true ↔ ∃ k : Nat, r.LeadsTo anchor (k * n) day := by
  have days : 0 ≤ day.daysSince anchor := by
    rw [Date.le_iff] at ahead
    rw [Date.daysSince]
    omega
  cases unit : r.frequency with
  | none => simp only [keepsStep, LeadsTo, unit, Bool.false_eq_true, exists_false]
  | some f =>
      cases f with
      | daily =>
          simp only [keepsStep, LeadsTo, unit, step, beq_iff_eq, Date.addDays_eq_ok_iff,
            emod_eq_zero_iff_exists days]
          apply exists_congr
          intro k
          rw [Date.daysSince]
          omega
      | weekly =>
          have weeks : 0 ≤ day.daysSince anchor / 7 := Int.ediv_nonneg days (by decide)
          simp only [leadsTo_weekly_iff unit, keepsStep, unit, step, Bool.and_eq_true, beq_iff_eq,
            emod_eq_zero_iff_exists weeks, Bool.or_eq_true, Bool.not_eq_true',
            List.isEmpty_eq_false_iff, ahead, true_and, exists_and_right, ← imp_iff_not_or]
      | monthly =>
          have months : 0 ≤ (day.monthIndex : Int) - anchor.monthIndex := by
            have := Date.monthIndex_mono ahead
            omega
          simp only [keepsStep, LeadsTo, unit, step, Bool.and_eq_true, beq_iff_eq,
            emod_eq_zero_iff_exists months, Date.iterate_monthAfter_eq_iff, ahead, true_and,
            exists_and_right, List.isEmpty_iff]
          apply and_congr_right
          intro _
          split
          · exact beq_iff_eq
          · exact List.contains_iff_mem
      | yearly =>
          have years : 0 ≤ (day.year : Int) - anchor.year := by
            have := Date.year_le_of_le ahead
            omega
          simp only [keepsStep, LeadsTo, unit, step, Bool.and_eq_true, beq_iff_eq,
            emod_eq_zero_iff_exists years, exists_and_right, and_assoc]
          apply and_congr_left
          intro _
          apply exists_congr
          omega

/-- A day belongs to a rule exactly where whole steps lead to it from the anchor and the filters of the
rule keep it: its weekdays, and for years its months. -/
theorem occursOn_iff_leadsTo {n : Nat} (interval : r.interval = some (n : Int)) (positive : 1 ≤ n)
    (anchor day : Date) :
    r.occursOn anchor day = true ↔ (∃ k : Nat, r.LeadsTo anchor (k * n) day)
      ∧ (r.byDay = [] ∨ day.weekday.code ∈ r.byDay)
      ∧ (r.frequency = some .yearly → r.byMonth = [] ∨ (day.month : Int) ∈ r.byMonth) := by
  have step : r.step = n := by
    rw [Rule.step, interval]
    exact if_neg (by omega)
  have weekdays : r.keepsWeekday day = true ↔ r.byDay = [] ∨ day.weekday.code ∈ r.byDay := by
    rw [keepsWeekday, Bool.or_eq_true, List.isEmpty_iff, List.contains_iff_mem]
  have months : r.keepsMonth day = true
      ↔ (r.frequency = some .yearly → r.byMonth = [] ∨ (day.month : Int) ∈ r.byMonth) := by
    rw [keepsMonth, Bool.or_eq_true, Bool.or_eq_true, bne_iff_ne, List.isEmpty_iff,
      List.contains_iff_mem, or_assoc, imp_iff_not_or]
  rw [occursOn, Bool.and_eq_true, Bool.and_eq_true, Bool.and_eq_true, decide_eq_true_iff, weekdays,
    months, and_assoc]
  apply and_congr_left
  intro _
  constructor
  · rintro ⟨ahead, kept⟩
    exact (keepsStep_iff step ahead).mp kept
  · rintro ⟨k, led⟩
    have ahead := le_of_leadsTo led
    exact ⟨ahead, (keepsStep_iff step ahead).mpr ⟨k, led⟩⟩

/-- On Sundays that are the 31st, every other month from the end of January on: one step leads to the
end of March, and two lead to the end of May, which is a Friday. -/
theorem occursOn_lastSundays :
    let r : Rule := { frequency := some .monthly, interval := some 2, byDay := [['S', 'U']] }
    let anchor : Date := ⟨2024, 1, 31, by decide⟩
    let march : Date := ⟨2024, 3, 31, by decide⟩
    let may : Date := ⟨2024, 5, 31, by decide⟩
    r.interval = some ((2 : Nat) : Int)
      ∧ ((∃ k : Nat, r.LeadsTo anchor (k * 2) march) ∧ march.weekday.code ∈ r.byDay)
      ∧ (∃ k : Nat, r.LeadsTo anchor (k * 2) may) ∧ r.occursOn anchor may = false := by
  intro r anchor march may
  have member : r.occursOn anchor march = true := by decide
  obtain ⟨led, listed, -⟩ := (occursOn_iff_leadsTo rfl (by decide) anchor march).mp member
  have early : anchor ≤ may := by decide
  refine ⟨rfl, ⟨led, listed.resolve_left nofun⟩, ⟨2, early, rfl, rfl⟩, ?_⟩
  decide

end Rule

end Recurrence
