import Recurrence.Proofs.Calendar.Ordinal
import Recurrence.Proofs.Fault

/-! Going on through the calendar: to the next day, and by whole years. -/

namespace Recurrence.Date

theorem one_le_daysInMonth (y : Nat) {m : Nat} (h1 : 1 ≤ m) (h2 : m ≤ 12) : 1 ≤ daysInMonth y m := by
  rcases month_cases h1 h2 with rfl | rfl | rfl | rfl | rfl | rfl | rfl | rfl | rfl | rfl | rfl | rfl
  all_goals simp only [daysInMonth]
  all_goals first | omega | (split <;> omega)

theorem exists_next {d : Date} (h : d.ordinal < lastOrdinal) : ∃ e, d.next? = some e := by
  obtain ⟨firstYear, upToLast, firstMonth, lastMonth, firstDay, -⟩ := d.isDate
  unfold next?
  split
  · rename_i inMonth
    exact ⟨_, of?_of_isDate ⟨firstYear, upToLast, firstMonth, lastMonth, by omega, inMonth⟩⟩
  · rename_i monthEnd
    split
    · rename_i inYear
      have some_ := one_le_daysInMonth d.year (Nat.le_add_left 1 d.month) inYear
      exact ⟨_, of?_of_isDate ⟨firstYear, upToLast, by omega, inYear, Nat.le_refl 1, some_⟩⟩
    · rename_i yearEnd
      have inCalendar : d.year < lastYear := by
        rcases Nat.lt_or_eq_of_le upToLast with before | year
        · exact before
        · have month : d.month = 12 := by omega
          have whole : daysBeforeYear lastYear + daysBeforeMonth lastYear 12 + daysInMonth lastYear 12
              = lastOrdinal := by
            decide
          rw [year, month] at monthEnd
          rw [ordinal, year, month] at h
          omega
      exact ⟨_, of?_of_isDate ⟨by omega, inCalendar, Nat.le_refl 1, by decide, Nat.le_refl 1,
        one_le_daysInMonth _ (Nat.le_refl 1) (by decide)⟩⟩

/-- So many years later the month is the same, and the day unless the month is too short for it. -/
theorem addYears_eq_ok {d e : Date} {n : Int} (h : d.addYears n = .ok e) :
    (e.year : Int) = d.year + n ∧ e.month = d.month
      ∧ e.day = min d.day (daysInMonth e.year d.month) := by
  unfold addYears at h
  dsimp only at h
  split at h
  · cases h
  · split at h
    · cases h
    · split at h
      · cases h
      · split at h
        · rename_i found
          cases h
          obtain ⟨year, month, day⟩ := of?_eq_some found
          have := e.isDate.1
          rw [day, month, year]
          refine ⟨by omega, rfl, rfl⟩
        · cases h

theorem le_iff_parts {d e : Date} :
    d ≤ e ↔ d.year < e.year
      ∨ (d.year = e.year ∧ (d.month < e.month ∨ (d.month = e.month ∧ d.day ≤ e.day))) := by
  rw [le_iff]
  rcases Nat.lt_trichotomy d.year e.year with before | same | after
  · have := ordinal_lt_of_year before
    omega
  · rcases Nat.lt_trichotomy d.month e.month with before | same' | after
    · have := ordinal_lt_of_month same before
      omega
    · rw [ordinal, ordinal, same, same']
      omega
    · have := ordinal_lt_of_month same.symm after
      omega
  · have := ordinal_lt_of_year after
    omega

theorem year_le_of_le {d e : Date} (h : d ≤ e) : d.year ≤ e.year := by
  rcases le_iff_parts.mp h with year | ⟨year, -⟩
  · exact Nat.le_of_lt year
  · exact Nat.le_of_eq year

theorem addYears_le_addYears {d e e' : Date} {m n : Int} (h : m ≤ n) (hm : d.addYears m = .ok e)
    (hn : d.addYears n = .ok e') : e ≤ e' := by
  obtain ⟨year, month, day⟩ := addYears_eq_ok hm
  obtain ⟨year', month', day'⟩ := addYears_eq_ok hn
  rw [le_iff_parts]
  by_cases same : e.year = e'.year
  · refine .inr ⟨same, .inr ⟨month.trans month'.symm, Nat.le_of_eq ?_⟩⟩
    rw [day, day', same]
  · left
    omega

theorem addYears_mono {d e d' e' : Date} {n : Int} (h : d ≤ e) (hd : d.addYears n = .ok d')
    (he : e.addYears n = .ok e') : d' ≤ e' := by
  obtain ⟨dYear, dMonth, dDay⟩ := addYears_eq_ok hd
  obtain ⟨eYear, eMonth, eDay⟩ := addYears_eq_ok he
  rw [le_iff_parts] at h ⊢
  rcases h with year | ⟨year, month | ⟨month, day⟩⟩
  · left
    omega
  · right
    refine ⟨by omega, .inl (by omega)⟩
  · have same : d'.year = e'.year := by omega
    right
    refine ⟨same, .inr ⟨by omega, ?_⟩⟩
    rw [dDay, eDay, same, month]
    omega

end Recurrence.Date
