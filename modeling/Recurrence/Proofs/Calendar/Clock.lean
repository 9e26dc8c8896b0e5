import Recurrence.Proofs.Calendar.Ordinal
import Recurrence.Proofs.Fault
import Recurrence.Calendar.Moment

/-! Moments on their own clock. A moment is its day and its time of day counted in microseconds,
and adding a duration moves that count and nothing else. -/

namespace Recurrence

theorem TimeOfDay.micros_lt (t : TimeOfDay) : t.micros < microsPerDay := by
  obtain ⟨hour, minute, second, micro⟩ := t.isTime
  simp only [micros, microsPerDay, microsPerSecond] at *
  omega

theorem TimeOfDay.micros_ofMicros {n : Nat} (h : n < microsPerDay) : (ofMicros n).micros = n := by
  simp only [ofMicros, micros, microsPerDay, microsPerSecond] at *
  omega

theorem TimeOfDay.eq_of_parts {a b : TimeOfDay} (hour : a.hour = b.hour)
    (minute : a.minute = b.minute) (second : a.second = b.second) (micro : a.micro = b.micro) :
    a = b := by
  rcases a with ⟨_, _, _, _, _⟩
  rcases b with ⟨_, _, _, _, _⟩
  cases hour
  cases minute
  cases second
  cases micro
  rfl

theorem TimeOfDay.ofMicros_micros (t : TimeOfDay) : ofMicros t.micros = t := by
  obtain ⟨hour, minute, second, micro⟩ := t.isTime
  simp only [microsPerSecond] at micro
  apply TimeOfDay.eq_of_parts
  all_goals
    simp only [ofMicros, micros, microsPerSecond]
    omega

namespace Moment

theorem clockMicros_eq (m : Moment) :
    m.clockMicros = (m.date.ordinal : Int) * microsPerDay + m.time.micros := by
  simp only [clockMicros, Int.natCast_add, Int.natCast_mul]

theorem clockMicros_div (m : Moment) : m.clockMicros / microsPerDay = m.date.ordinal := by
  have := m.time.micros_lt
  rw [clockMicros_eq]
  simp only [microsPerDay, microsPerSecond] at *
  omega

/-- What is no later is on no later day. -/
theorem date_le_of_clockMicros {a b : Moment} (h : a.clockMicros ≤ b.clockMicros) :
    a.date ≤ b.date := by
  have days : (a.date.ordinal : Int) ≤ b.date.ordinal := by
    rw [← clockMicros_div, ← clockMicros_div]
    exact Int.ediv_le_ediv (by decide) h
  exact Int.ofNat_le.mp days

theorem clockMicros_mod (m : Moment) : m.clockMicros % microsPerDay = m.time.micros := by
  have := m.time.micros_lt
  rw [clockMicros_eq]
  simp only [microsPerDay, microsPerSecond] at *
  omega

theorem clockMicros_mod_second (m : Moment) : m.clockMicros % microsPerSecond = m.time.micro := by
  have := m.time.isTime.2.2.2
  simp only [clockMicros_eq, TimeOfDay.micros, microsPerDay, microsPerSecond] at *
  omega

/-- Moments with one offset are told apart by their clocks. -/
theorem clockMicros_inj {a b : Moment} (ho : a.offset = b.offset)
    (h : a.clockMicros = b.clockMicros) : a = b := by
  have days : a.date = b.date := by
    have same : (a.date.ordinal : Int) = b.date.ordinal := by
      rw [← clockMicros_div, ← clockMicros_div, h]
    exact Date.ordinal_inj.mp (Int.ofNat_inj.mp same)
  have times : a.time = b.time := by
    have same : (a.time.micros : Int) = b.time.micros := by
      rw [← clockMicros_mod, ← clockMicros_mod, h]
    rw [← a.time.ofMicros_micros, ← b.time.ofMicros_micros, Int.ofNat_inj.mp same]
  rcases a with ⟨_, _, _⟩
  rcases b with ⟨_, _, _⟩
  simp only [Moment.mk.injEq]
  exact ⟨days, times, ho⟩

@[simp] theorem micros_of_naive {m : Moment} (h : m.offset = none) : m.micros = m.clockMicros := by
  simp only [micros, h, Option.getD_none, Int.zero_mul, Int.sub_zero]

/-- A sum keeps the offset and goes on by the duration. -/
theorem add_eq_ok {m r : Moment} {d : Duration} (h : m.add d = .ok r) :
    r.offset = m.offset ∧ r.clockMicros = m.clockMicros + d.micros := by
  unfold add at h
  dsimp only at h
  generalize hn : m.clockMicros + d.micros = n at h
  split at h
  · rename_i date found
    cases h
    refine ⟨rfl, ?_⟩
    have place := Date.ofOrdinal?_eq_some_iff.mp found
    have bound : (n % microsPerDay).toNat < microsPerDay := by
      simp only [microsPerDay, microsPerSecond]
      omega
    rw [clockMicros_eq]
    dsimp only
    rw [TimeOfDay.micros_ofMicros bound, place]
    simp only [microsPerDay, microsPerSecond]
    omega
  · cases h

/-- A sum fails where its day lies outside the calendar. -/
theorem fails_add {m : Moment} {d : Duration} :
    Fails (m.add d) ↔ (m.clockMicros + d.micros) / microsPerDay < 1
      ∨ lastOrdinal < (m.clockMicros + d.micros) / microsPerDay := by
  rw [← Date.ofOrdinal?_eq_none_iff]
  unfold add
  dsimp only
  cases Date.ofOrdinal? ((m.clockMicros + d.micros) / microsPerDay) with
  | none => exact ⟨fun _ => rfl, fun _ => ⟨_, rfl⟩⟩
  | some date => exact ⟨fun failed => absurd failed (not_fails_ok _), nofun⟩

theorem since_of_naive {a b : Moment} (ha : a.offset = none) (hb : b.offset = none) :
    a.since b = .ok ⟨a.clockMicros - b.clockMicros⟩ := by
  simp only [since, checkComparable, ha, hb, if_true, Except.map, micros_of_naive]

theorem notAfter_of_naive {a b : Moment} (ha : a.offset = none) (hb : b.offset = none) :
    a.notAfter b = .ok (decide (a.clockMicros ≤ b.clockMicros)) := by
  simp only [notAfter, checkComparable, ha, hb, if_true, Except.map, micros_of_naive]

end Moment

end Recurrence
