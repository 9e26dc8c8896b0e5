import Recurrence.Proofs.Fault
import Recurrence.Proofs.Series.Listing

/-! The occurrences that start in a window. Among moments without offsets the window is a filter,
and it cannot fail. -/

namespace Recurrence

/-- The start lies in the window on the common clock. -/
def Occurrence.isWithin (first last : Moment) (o : Occurrence) : Bool :=
  decide (first.clockMicros ≤ o.start.clockMicros) && decide (o.start.clockMicros ≤ last.clockMicros)

theorem Occurrence.isWithin_iff {first last : Moment} {o : Occurrence} :
    o.isWithin first last = true
      ↔ first.clockMicros ≤ o.start.clockMicros ∧ o.start.clockMicros ≤ last.clockMicros := by
  rw [isWithin, Bool.and_eq_true, decide_eq_true_eq, decide_eq_true_eq]

/-- Up to its end a window is what a longer one is up to there. -/
theorem Occurrence.isWithin_shorter {first last later : Moment} {o : Occurrence}
    (within : last.clockMicros ≤ later.clockMicros) :
    (decide (o.start.clockMicros ≤ last.clockMicros) && o.isWithin first later)
      = o.isWithin first last := by
  rw [Bool.eq_iff_iff, Bool.and_eq_true, decide_eq_true_eq, isWithin_iff, isWithin_iff]
  omega

section Window

variable {first last : Moment} {os : List Occurrence}

theorem Occurrence.startsWithin_of_naive {o : Occurrence} (hf : first.offset = none)
    (hl : last.offset = none) (ho : o.start.offset = none) :
    o.startsWithin first last = .ok (o.isWithin first last) := by
  rw [startsWithin, Moment.notAfter_of_naive hf ho, ok_bind, isWithin]
  by_cases late : first.clockMicros ≤ o.start.clockMicros
  · rw [decide_eq_true late, if_pos rfl, Moment.notAfter_of_naive ho hl, Bool.true_and]
  · rw [decide_eq_false late, if_neg Bool.false_ne_true, Bool.false_and]

theorem occurrencesWithinFrom_of_naive (hf : first.offset = none) (hl : last.offset = none)
    (h : ∀ o ∈ os, o.start.offset = none) (found : List Occurrence) :
    occurrencesWithinFrom first last found os
      = .ok (found.reverse ++ os.filter (Occurrence.isWithin first last)) := by
  induction os generalizing found with
  | nil => rw [occurrencesWithinFrom, List.filter_nil, List.append_nil]
  | cons o os ih =>
      rw [occurrencesWithinFrom, Occurrence.startsWithin_of_naive hf hl (h o List.mem_cons_self)]
      dsimp only
      rw [ih fun o' later => h o' (List.mem_cons_of_mem o later), List.filter_cons]
      cases o.isWithin first last with
      | false => rfl
      | true =>
          rw [if_pos rfl, if_pos rfl, List.reverse_cons, List.append_assoc, List.singleton_append]

theorem occurrencesWithin_of_naive (hf : first.offset = none) (hl : last.offset = none)
    (h : ∀ o ∈ os, o.start.offset = none) :
    occurrencesWithin first last os = .ok (os.filter (Occurrence.isWithin first last)) :=
  occurrencesWithinFrom_of_naive hf hl h []

theorem mem_of_occurrencesWithinFrom {found inside : List Occurrence}
    (h : occurrencesWithinFrom first last found os = .ok inside) :
    ∀ o ∈ inside, o ∈ found ∨ o ∈ os := by
  induction os generalizing found with
  | nil =>
      cases h
      exact fun o member => .inl (List.mem_reverse.mp member)
  | cons a os ih =>
      rw [occurrencesWithinFrom] at h
      split at h
      · cases h
      · intro o member
        rcases ih h o member with before | later
        · split at before
          · rcases List.mem_cons.mp before with rfl | older
            · exact .inr List.mem_cons_self
            · exact .inl older
          · exact .inl before
        · exact .inr (List.mem_cons_of_mem a later)

/-- Whatever the window, what is found in it is among the occurrences. -/
theorem mem_of_occurrencesWithin {inside : List Occurrence}
    (h : occurrencesWithin first last os = .ok inside) : ∀ o ∈ inside, o ∈ os :=
  fun o member => (mem_of_occurrencesWithinFrom h o member).resolve_left List.not_mem_nil

/-- Fewer occurrences give those of them that were in the window. -/
theorem occurrencesWithin_filter (hf : first.offset = none) (hl : last.offset = none)
    (h : ∀ o ∈ os, o.start.offset = none) {inside : List Occurrence}
    (within : occurrencesWithin first last os = .ok inside) (p : Occurrence → Bool) :
    occurrencesWithin first last (os.filter p) = .ok (inside.filter p) := by
  rw [occurrencesWithin_of_naive hf hl h] at within
  rw [occurrencesWithin_of_naive hf hl fun o member => h o (List.mem_filter.mp member).1,
    ← Except.ok.inj within]
  simp only [List.filter_filter, Bool.and_comm]

end Window

namespace Series

theorem exists_day_of_slots {R : Date → Occurrence → Prop} {days : List Date}
    {os : List Occurrence} (slots : List.Forall₂ R days os) : ∀ o ∈ os, ∃ d ∈ days, R d o := by
  induction slots with
  | nil => exact nofun
  | cons slot _ ih =>
      intro o member
      rcases List.mem_cons.mp member with rfl | later
      · exact ⟨_, List.mem_cons_self, slot⟩
      · obtain ⟨d, inside, here⟩ := ih o later
        exact ⟨d, List.mem_cons_of_mem _ inside, here⟩

/-- Every occurrence starts at the time of day of the series. -/
theorem start_of_expand {s : Series} {overrides : OverrideSet} {b : Bounds}
    {found : List Occurrence} (h : s.expand overrides b = .ok found) :
    ∀ o ∈ found, ∃ day, o.start = s.slotStart day := by
  obtain ⟨duration, horizon, -, -, slots⟩ := expand_eq_ok h
  intro o member
  obtain ⟨day, _, start, _⟩ := exists_day_of_slots slots o member
  exact ⟨day, start⟩

/-- In a window between moments without offsets a series without an offset has the occurrences that
start there. -/
theorem occurrencesWithin_of_expand {s : Series} {overrides : OverrideSet} {b : Bounds}
    {found : List Occurrence} {first last : Moment} (hf : first.offset = none)
    (hl : last.offset = none) (naive : s.start.offset = none)
    (h : s.expand overrides b = .ok found) :
    occurrencesWithin first last found = .ok (found.filter (Occurrence.isWithin first last)) := by
  apply occurrencesWithin_of_naive hf hl
  intro o member
  obtain ⟨_, begins⟩ := start_of_expand h o member
  rw [begins]
  exact naive

end Series

end Recurrence
