import Recurrence.Calendar.Date
import Mathlib.Tactic.SplitIfs

/-! The numbering of days follows the calendar: the number goes up by one from each day to the
next, so the days of the years 1 to 9999 and the numbers 1 to 3652059 determine each other. -/

namespace Recurrence

/-- The number of days of a year. -/
def daysInYear (y : Nat) : Nat := if isLeapYear y then 366 else 365

theorem isLeapYear_iff (y : Nat) :
    isLeapYear y = true ↔ y % 4 = 0 ∧ (y % 100 ≠ 0 ∨ y % 400 = 0) := by
  simp only [isLeapYear, Bool.and_eq_true, Bool.or_eq_true, beq_iff_eq, bne_iff_ne]

theorem month_cases {m : Nat} (h1 : 1 ≤ m) (h2 : m ≤ 12) :
    m = 1 ∨ m = 2 ∨ m = 3 ∨ m = 4 ∨ m = 5 ∨ m = 6 ∨ m = 7 ∨ m = 8 ∨ m = 9 ∨ m = 10 ∨ m = 11
      ∨ m = 12 := by
  omega

theorem daysInMonth_congr {y z : Nat} (same : isLeapYear y = isLeapYear z) (m : Nat) :
    daysInMonth y m = daysInMonth z m := by
  unfold daysInMonth
  rw [same]

theorem daysBeforeMonth_congr {y z : Nat} (same : isLeapYear y = isLeapYear z) (m : Nat) :
    daysBeforeMonth y m = daysBeforeMonth z m := by
  unfold daysBeforeMonth
  rw [same]

theorem daysInMonth_le (y m : Nat) : daysInMonth y m ≤ 31 := by
  unfold daysInMonth
  split
  all_goals first | omega | (split <;> omega)

theorem daysBeforeMonth_succ (y : Nat) {m : Nat} (h1 : 1 ≤ m) (h2 : m < 12) :
    daysBeforeMonth y (m + 1) = daysBeforeMonth y m + daysInMonth y m := by
  rcases month_cases h1 (Nat.le_of_lt h2) with
    rfl | rfl | rfl | rfl | rfl | rfl | rfl | rfl | rfl | rfl | rfl | rfl
  all_goals simp only [daysBeforeMonth, daysInMonth]
  all_goals first | omega | (split <;> omega)

theorem daysBeforeMonth_last (y : Nat) : daysBeforeMonth y 12 + daysInMonth y 12 = daysInYear y := by
  simp only [daysBeforeMonth, daysInMonth, daysInYear]
  split <;> omega

theorem daysBeforeMonth_add_le (y : Nat) {m : Nat} (h1 : 1 ≤ m) (h2 : m ≤ 12) :
    daysBeforeMonth y m + daysInMonth y m ≤ daysInYear y := by
  rcases month_cases h1 h2 with rfl | rfl | rfl | rfl | rfl | rfl | rfl | rfl | rfl | rfl | rfl | rfl
  all_goals simp only [daysBeforeMonth, daysInMonth, daysInYear]
  all_goals split <;> omega

theorem daysBeforeMonth_mono (y : Nat) {m k : Nat} (h1 : 1 ≤ m) (h : m < k) (h2 : k ≤ 12) :
    daysBeforeMonth y m + daysInMonth y m ≤ daysBeforeMonth y k := by
  induction k with
  | zero => omega
  | succ k ih =>
      by_cases same : m = k
      · subst same
        exact Nat.le_of_eq (daysBeforeMonth_succ y h1 (by omega)).symm
      · have before := ih (by omega) (by omega)
        rw [daysBeforeMonth_succ y (by omega) (by omega)]
        omega

theorem daysBeforeYear_succ {y : Nat} (h : 1 ≤ y) :
    daysBeforeYear (y + 1) = daysBeforeYear y + daysInYear y := by
  have fours : y / 4 = (y - 1) / 4 + if y % 4 = 0 then 1 else 0 := by split <;> omega
  have centuries : y / 100 = (y - 1) / 100 + if y % 100 = 0 then 1 else 0 := by split <;> omega
  have cycles : y / 400 = (y - 1) / 400 + if y % 400 = 0 then 1 else 0 := by split <;> omega
  have leap : daysInYear y = 365 + (if y % 4 = 0 then 1 else 0) - (if y % 100 = 0 then 1 else 0)
      + if y % 400 = 0 then 1 else 0 := by
    simp only [daysInYear, isLeapYear_iff]
    split_ifs <;> omega
  have bound : (y - 1) / 100 ≤ (y - 1) / 4 := by omega
  simp only [daysBeforeYear, Nat.add_sub_cancel, leap, fours, centuries, cycles]
  split_ifs <;> omega

theorem daysBeforeYear_mono {y z : Nat} (h1 : 1 ≤ y) (h : y < z) :
    daysBeforeYear y + daysInYear y ≤ daysBeforeYear z := by
  induction z with
  | zero => omega
  | succ z ih =>
      by_cases same : y = z
      · subst same
        exact Nat.le_of_eq (daysBeforeYear_succ h1).symm
      · have before := ih (by omega)
        rw [daysBeforeYear_succ (by omega)]
        omega

namespace Date

theorem lt_iff (a b : Date) : a < b ↔ a.ordinal < b.ordinal := Iff.rfl

theorem le_iff (a b : Date) : a ≤ b ↔ a.ordinal ≤ b.ordinal := Iff.rfl

theorem of?_eq_some {y m d : Nat} {e : Date} (h : of? y m d = some e) :
    e.year = y ∧ e.month = m ∧ e.day = d := by
  unfold of? at h
  split at h
  · cases h
    exact ⟨rfl, rfl, rfl⟩
  · cases h

theorem of?_of_isDate {y m d : Nat} (h : IsDate y m d) : of? y m d = some ⟨y, m, d, h⟩ := dif_pos h

@[simp] theorem of?_self (d : Date) : of? d.year d.month d.day = some d := of?_of_isDate d.isDate

theorem ext_iff_parts {a b : Date} :
    a = b ↔ a.year = b.year ∧ a.month = b.month ∧ a.day = b.day := by
  constructor
  · rintro rfl
    exact ⟨rfl, rfl, rfl⟩
  · rcases a with ⟨y, m, d, _⟩
    rcases b with ⟨y', m', d', _⟩
    rintro ⟨rfl, rfl, rfl⟩
    rfl

/-- A day lies between the ends of its month, and so of its year. -/
theorem ordinal_bounds (d : Date) :
    daysBeforeYear d.year + daysBeforeMonth d.year d.month < d.ordinal
      ∧ d.ordinal ≤ daysBeforeYear d.year + daysBeforeMonth d.year d.month
          + daysInMonth d.year d.month
      ∧ d.ordinal ≤ daysBeforeYear d.year + daysInYear d.year := by
  obtain ⟨_, _, hm, hm', hd, hd'⟩ := d.isDate
  have := daysBeforeMonth_add_le d.year hm hm'
  unfold ordinal
  omega

theorem ordinal_lt_of_year {a b : Date} (h : a.year < b.year) : a.ordinal < b.ordinal := by
  have years := daysBeforeYear_mono a.isDate.1 h
  have := a.ordinal_bounds
  have := b.ordinal_bounds
  omega

theorem ordinal_lt_of_month {a b : Date} (hy : a.year = b.year) (h : a.month < b.month) :
    a.ordinal < b.ordinal := by
  have months := daysBeforeMonth_mono a.year a.isDate.2.2.1 h b.isDate.2.2.2.1
  have below := a.ordinal_bounds
  have above := b.ordinal_bounds
  rw [← hy] at above
  omega

theorem ordinal_inj {a b : Date} : a.ordinal = b.ordinal ↔ a = b := by
  refine ⟨fun same => ?_, fun same => same ▸ rfl⟩
  have years : a.year = b.year := by
    rcases Nat.lt_trichotomy a.year b.year with h | h | h
    · have := ordinal_lt_of_year h; omega
    · exact h
    · have := ordinal_lt_of_year h; omega
  have months : a.month = b.month := by
    rcases Nat.lt_trichotomy a.month b.month with h | h | h
    · have := ordinal_lt_of_month years h; omega
    · exact h
    · have := ordinal_lt_of_month years.symm h; omega
  refine ext_iff_parts.mpr ⟨years, months, ?_⟩
  unfold ordinal at same
  rw [years, months] at same
  omega

theorem ordinal_pos (d : Date) : 1 ≤ d.ordinal := by
  have := d.ordinal_bounds
  omega

theorem ordinal_le_last (d : Date) : d.ordinal ≤ lastOrdinal := by
  have whole : daysBeforeYear (lastYear + 1) = lastOrdinal := by decide
  have inRange : d.year < lastYear + 1 := Nat.lt_succ_of_le d.isDate.2.1
  have years := daysBeforeYear_mono d.isDate.1 inRange
  have := d.ordinal_bounds
  omega

/-- The day after a day has the next number. -/
theorem ordinal_next {d e : Date} (h : d.next? = some e) : e.ordinal = d.ordinal + 1 := by
  obtain ⟨hy, _, hm, hm', hd, hd'⟩ := d.isDate
  unfold next? at h
  split at h
  · obtain ⟨year, month, day⟩ := of?_eq_some h
    simp only [ordinal, year, month, day]
    omega
  · split at h
    · rename_i monthEnd inYear
      obtain ⟨year, month, day⟩ := of?_eq_some h
      simp only [ordinal, year, month, day, daysBeforeMonth_succ d.year hm inYear]
      omega
    · rename_i monthEnd yearEnd
      obtain ⟨year, month, day⟩ := of?_eq_some h
      have last : d.month = 12 := by omega
      have whole := daysBeforeMonth_last d.year
      have first : daysBeforeMonth (d.year + 1) 1 = 0 := rfl
      simp only [ordinal, year, month, day, daysBeforeYear_succ hy, first, last] at *
      omega

/-! The day with a number. -/

/-- The days before a year whose place is given by cycles of 400, 100 and 4 years. -/
theorem daysBeforeYear_of_cycles {q c b a : Nat} (hc : c ≤ 3) (hb : b ≤ 24) (ha : a ≤ 3) :
    daysBeforeYear (q * 400 + c * 100 + b * 4 + a + 1)
      = q * 146097 + c * 36524 + b * 1461 + a * 365 := by
  have fours : (q * 400 + c * 100 + b * 4 + a) / 4 = q * 100 + c * 25 + b := by omega
  have centuries : (q * 400 + c * 100 + b * 4 + a) / 100 = q * 4 + c := by omega
  have cycles : (q * 400 + c * 100 + b * 4 + a) / 400 = q := by omega
  simp only [daysBeforeYear, Nat.add_sub_cancel, fours, centuries, cycles]
  omega

theorem daysInYear_of_cycles {q c b a : Nat} (hc : c ≤ 3) (hb : b ≤ 24) (ha : a ≤ 3) :
    daysInYear (q * 400 + c * 100 + b * 4 + a + 1)
      = if a = 3 ∧ (b = 24 → c = 3) then 366 else 365 := by
  simp only [daysInYear, isLeapYear_iff]
  split_ifs <;> omega

theorem yearOfDays_spec (n : Nat) :
    1 ≤ (yearOfDays n).1 ∧ daysBeforeYear (yearOfDays n).1 + (yearOfDays n).2 = n
      ∧ (yearOfDays n).2 < daysInYear (yearOfDays n).1 := by
  generalize hq : n / 146097 = q
  generalize hc : min (n % 146097 / 36524) 3 = c
  generalize hs : n % 146097 - c * 36524 = s
  generalize ha : min (s % 1461 / 365) 3 = a
  have years : yearOfDays n = (q * 400 + c * 100 + s / 1461 * 4 + a + 1, s % 1461 - a * 365) := by
    simp only [yearOfDays, hq, hc, hs, ha]
  have century : c ≤ 3 ∧ s ≤ 36524 ∧ (s = 36524 → c = 3) ∧ n = q * 146097 + c * 36524 + s := by
    omega
  have inCentury : s / 1461 ≤ 24 := by omega
  have year : a ≤ 3 ∧ a * 365 ≤ s % 1461 ∧ s % 1461 - a * 365 ≤ 365
      ∧ (s % 1461 - a * 365 = 365 → a = 3 ∧ s % 1461 = 1460) := by
    omega
  simp only [years, daysBeforeYear_of_cycles century.1 inCentury year.1,
    daysInYear_of_cycles century.1 inCentury year.1]
  refine ⟨by omega, by omega, ?_⟩
  split_ifs <;> omega

theorem monthOfDays_spec (y fuel m n : Nat) (h1 : 1 ≤ m) (h2 : m + fuel = 12)
    (h : daysBeforeMonth y m + n < daysInYear y) :
    1 ≤ (monthOfDays y fuel m n).1 ∧ (monthOfDays y fuel m n).1 ≤ 12
      ∧ 1 ≤ (monthOfDays y fuel m n).2
      ∧ (monthOfDays y fuel m n).2 ≤ daysInMonth y (monthOfDays y fuel m n).1
      ∧ daysBeforeMonth y (monthOfDays y fuel m n).1 + (monthOfDays y fuel m n).2
          = daysBeforeMonth y m + n + 1 := by
  induction fuel generalizing m n with
  | zero =>
      have last : m = 12 := by omega
      subst last
      have := daysBeforeMonth_last y
      simp only [monthOfDays]
      omega
  | succ fuel ih =>
      simp only [monthOfDays]
      split
      · dsimp only
        omega
      · have step := daysBeforeMonth_succ y h1 (by omega)
        have later := ih (m + 1) (n - daysInMonth y m) (by omega) (by omega) (by omega)
        omega

theorem exists_ofOrdinal? {n : Int} (h1 : 1 ≤ n) (h2 : n ≤ lastOrdinal) :
    ∃ d, ofOrdinal? n = some d ∧ (d.ordinal : Int) = n := by
  obtain ⟨hy, split, rest⟩ := yearOfDays_spec (n - 1).toNat
  obtain ⟨hm, hm', hd, hd', place⟩ := monthOfDays_spec (yearOfDays (n - 1).toNat).1 11 1
    (yearOfDays (n - 1).toNat).2 (by omega) (by omega) (by simpa only [daysBeforeMonth, Nat.zero_add])
  have inRange : (yearOfDays (n - 1).toNat).1 ≤ lastYear := by
    have whole : daysBeforeYear (lastYear + 1) = lastOrdinal := by decide
    have ahead : (yearOfDays (n - 1).toNat).1 ≠ lastYear + 1 := by
      intro same
      rw [same] at split
      omega
    have further : ¬ lastYear + 1 < (yearOfDays (n - 1).toNat).1 := by
      intro late
      have := daysBeforeYear_mono (y := lastYear + 1) (by omega) late
      omega
    omega
  refine ⟨⟨_, _, _, hy, inRange, hm, hm', hd, hd'⟩, ?_, ?_⟩
  · simp only [ofOrdinal?, if_pos (And.intro h1 h2)]
    exact of?_of_isDate _
  · have start : daysBeforeMonth (yearOfDays (n - 1).toNat).1 1 = 0 := rfl
    simp only [ordinal]
    omega

theorem ofOrdinal?_eq_some_iff {n : Int} {d : Date} :
    ofOrdinal? n = some d ↔ (d.ordinal : Int) = n := by
  constructor
  · intro h
    have range : 1 ≤ n ∧ n ≤ lastOrdinal := by
      unfold ofOrdinal? at h
      split at h
      · assumption
      · cases h
    obtain ⟨e, found, place⟩ := exists_ofOrdinal? range.1 range.2
    rw [h] at found
    cases found
    exact place
  · intro h
    have low := d.ordinal_pos
    have high := d.ordinal_le_last
    obtain ⟨e, found, place⟩ := exists_ofOrdinal? (n := n) (by omega) (by omega)
    have same : e = d := ordinal_inj.mp (by omega)
    rw [found, same]

theorem ofOrdinal?_eq_none_iff {n : Int} : ofOrdinal? n = none ↔ n < 1 ∨ lastOrdinal < n := by
  constructor
  · intro none
    by_cases inside : 1 ≤ n ∧ n ≤ lastOrdinal
    · obtain ⟨d, found, _⟩ := exists_ofOrdinal? inside.1 inside.2
      rw [none] at found
      cases found
    · omega
  · intro outside
    exact if_neg (by omega)

@[simp] theorem ofOrdinal?_ordinal (d : Date) : ofOrdinal? d.ordinal = some d :=
  ofOrdinal?_eq_some_iff.mpr rfl

theorem addDays_eq_ok_iff {d e : Date} {n : Int} :
    d.addDays n = .ok e ↔ (e.ordinal : Int) = d.ordinal + n := by
  rw [← ofOrdinal?_eq_some_iff]
  unfold addDays
  cases ofOrdinal? (d.ordinal + n) <;> simp

end Date

end Recurrence
