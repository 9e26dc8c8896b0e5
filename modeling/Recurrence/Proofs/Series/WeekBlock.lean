import Mathlib.Data.List.Dedup
import Recurrence.Proofs.Calendar.DayRange
import Recurrence.Proofs.Rule.Stored
import Recurrence.Proofs.Series.Rewording

/-! Weeks are counted in blocks of seven days from the anchor on, on whatever weekday it lies. Every
block holds every weekday once, so a rule has in a block that it keeps one day for each of its weekdays,
and none in the others. -/

namespace Recurrence

namespace Weekday

theorem mem_all (w : Weekday) : w ∈ all := by
  cases w <;> decide

/-- Seven numbers in a row are those of the seven weekdays. -/
theorem map_ofIndex_perm (n : Nat) : ((List.range' n 7).map ofIndex).Perm all := by
  have rotated : ∀ i < 7, ((List.range' i 7).map ofIndex).Perm all := by decide
  have turn : (List.range' n 7).map ofIndex = (List.range' (n % 7) 7).map ofIndex := by
    have shifted : List.range' n 7 = (List.range' (n % 7) 7).map (n / 7 * 7 + ·) := by
      rw [List.map_add_range', Nat.div_add_mod']
    rw [shifted, List.map_map]
    apply List.map_congr_left
    intro i _
    apply ofIndex_eq_iff.mpr
    dsimp only
    omega
  rw [turn]
  exact rotated _ (Nat.mod_lt n (by decide))

/-- Among the weekdays those with a code of a list are as many as the list has different codes. -/
theorem countP_code {codes : List Text} (coded : ∀ c ∈ codes, ∃ w : Weekday, w.code = c) :
    all.countP (fun w => codes.contains w.code) = codes.dedup.length := by
  have distinct : (all.map code).Nodup := by decide
  have same : ((all.map code).filter fun c => codes.contains c).Perm codes.dedup := by
    apply (List.perm_ext_iff_of_nodup (distinct.filter _) codes.nodup_dedup).mpr
    intro c
    rw [List.mem_filter, List.contains_iff_mem, List.mem_dedup]
    constructor
    · exact And.right
    · intro listed
      obtain ⟨w, rfl⟩ := coded c listed
      exact ⟨List.mem_map_of_mem w.mem_all, listed⟩
  rw [← same.length_eq, ← List.countP_eq_length_filter, List.countP_map]
  rfl

end Weekday

namespace Date

/-- The weekdays of a week, which may begin on any day. -/
theorem map_weekday_perm {first last : Date} (week : last.ordinal = first.ordinal + 6) :
    ((first.through last).map weekday).Perm Weekday.all := by
  have seven : last.ordinal + 1 - first.ordinal = 7 := by omega
  have weekdays : (first.through last).map weekday
      = (List.range' (first.ordinal + 6) 7).map Weekday.ofIndex := by
    have later : List.range' (first.ordinal + 6) 7 = (List.range' first.ordinal 7).map (6 + ·) := by
      rw [List.map_add_range', Nat.add_comm]
    rw [through, seven, numbered, List.map_filterMap, later, List.map_map, ← List.filterMap_eq_map]
    apply List.filterMap_congr
    intro k inside
    have bounds := List.mem_range'_1.mp inside
    have positive := first.ordinal_pos
    have inCalendar := last.ordinal_le_last
    obtain ⟨d, numbered, place⟩ := @exists_ofOrdinal? k (by omega) (by omega)
    rw [numbered, Option.map_some, weekday, Int.natCast_inj.mp place, Nat.add_comm]
    rfl
  rw [weekdays]
  exact Weekday.map_ofIndex_perm _

end Date

namespace Rule

variable {r : Rule} {n k : Nat} {anchor first last day : Date}

/-- In a block of seven days the rule asks of the block whether it is one of its steps, and of the day
whether it is one of its weekdays. -/
theorem occursOn_block (weekly : r.frequency = some .weekly) (interval : r.interval = some (n : Int))
    (positive : 1 ≤ n) (named : r.byDay ≠ []) (low : anchor.ordinal + 7 * k ≤ day.ordinal)
    (high : day.ordinal < anchor.ordinal + 7 * k + 7) :
    r.occursOn anchor day = (decide (n ∣ k) && r.byDay.contains day.weekday.code) := by
  have ahead : anchor ≤ day := by
    rw [Date.le_iff]
    omega
  have block : day.daysSince anchor / 7 = k := by
    rw [Date.daysSince]
    omega
  have step := step_of_positive interval (Int.ofNat_le.mpr positive)
  have whole : ((k : Int) % (n : Int) == 0) = decide (n ∣ k) := by
    rw [Bool.eq_iff_iff, beq_iff_eq, decide_eq_true_iff, ← Int.dvd_iff_emod_eq_zero,
      Int.natCast_dvd_natCast]
  have listed := List.isEmpty_eq_false_iff.mpr named
  have months : r.keepsMonth day = true := by
    apply keepsMonth_eq_true
    rw [weekly]
    exact .inl (by decide)
  simp only [occursOn, keepsStep, keepsWeekday, weekly, block, step, whole, listed, months,
    decide_eq_true ahead, Bool.not_false, Bool.true_or, Bool.false_or, Bool.true_and, Bool.and_true]

/-- Of the days of a block the rule has as many as it names different weekdays, if the number of the
block is a whole number of its steps, and none otherwise. -/
theorem countP_block (weekly : r.frequency = some .weekly) (interval : r.interval = some (n : Int))
    (positive : 1 ≤ n) (named : r.byDay ≠ []) (coded : r.IsCoded)
    (begins : anchor.addDays (7 * k : Nat) = .ok first)
    (finishes : anchor.addDays (7 * k + 6 : Nat) = .ok last) :
    (first.through last).countP (r.occursOn anchor)
      = if n ∣ k then r.byDay.dedup.length else 0 := by
  have start := Date.addDays_eq_ok_iff.mp begins
  have stop := Date.addDays_eq_ok_iff.mp finishes
  have days : ∀ day ∈ first.through last, r.occursOn anchor day
      = (decide (n ∣ k) && r.byDay.contains day.weekday.code) := by
    intro day inside
    obtain ⟨low, high⟩ := Date.mem_through.mp inside
    rw [Date.le_iff] at low high
    exact occursOn_block weekly interval positive named (by omega) (by omega)
  rw [List.countP_congr fun day inside => by rw [days day inside]]
  by_cases kept : n ∣ k
  · have weekdays := @Date.map_weekday_perm first last (by omega)
    simp only [kept, decide_true, Bool.true_and, if_true]
    calc (first.through last).countP (fun day => r.byDay.contains day.weekday.code)
        = ((first.through last).map Date.weekday).countP fun w => r.byDay.contains w.code :=
          by rw [List.countP_map]; rfl
      _ = Weekday.all.countP fun w => r.byDay.contains w.code := weekdays.countP_eq _
      _ = r.byDay.dedup.length := Weekday.countP_code coded
  · simp only [kept, decide_false, Bool.false_and, if_false]
    exact congrFun List.countP_false _

/-- Mondays and Wednesdays of every other week, the Wednesdays named twice, from a Thursday on. The third
block has one of each, though they lie in the calendar week after the one that it begins in, and the
fourth block has none. -/
theorem countP_block_fromThursday :
    let r : Rule :=
      { frequency := some .weekly, interval := some 2, byDay := [['W', 'E'], ['M', 'O'], ['W', 'E']] }
    let anchor : Date := ⟨2024, 1, 4, by decide⟩
    let third : Date := ⟨2024, 1, 18, by decide⟩
    let fourth : Date := ⟨2024, 1, 25, by decide⟩
    r.IsCoded ∧ r.byDay.dedup.length = 2
      ∧ (third.through ⟨2024, 1, 24, by decide⟩).countP (r.occursOn anchor) = 2
      ∧ (fourth.through ⟨2024, 1, 31, by decide⟩).countP (r.occursOn anchor) = 0 := by
  intro r anchor third fourth
  have coded : r.IsCoded := by
    intro c listed
    simp only [r, List.mem_cons, List.not_mem_nil, or_false] at listed
    rcases listed with rfl | rfl | rfl
    · exact ⟨.wednesday, rfl⟩
    · exact ⟨.monday, rfl⟩
    · exact ⟨.wednesday, rfl⟩
  have named : r.byDay ≠ [] := List.cons_ne_nil _ _
  have inThird := @countP_block r 2 2 anchor third ⟨2024, 1, 24, by decide⟩ rfl rfl (by decide) named coded
    (Date.addDays_eq_ok_iff.mpr (by decide)) (Date.addDays_eq_ok_iff.mpr (by decide))
  have inFourth := @countP_block r 2 3 anchor fourth ⟨2024, 1, 31, by decide⟩ rfl rfl (by decide) named
    coded (Date.addDays_eq_ok_iff.mpr (by decide)) (Date.addDays_eq_ok_iff.mpr (by decide))
  exact ⟨coded, rfl, inThird, inFourth⟩

end Rule

end Recurrence
