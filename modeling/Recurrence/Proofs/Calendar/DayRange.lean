import Recurrence.Proofs.Calendar.Ordinal

/-! Stretches of days in calendar order. -/

namespace Recurrence.Date

/-- The days with `n` numbers from a number on, in order, as far as the calendar has them. -/
def numbered (first n : Nat) : List Date :=
  (List.range' first n).filterMap fun k : Nat => ofOrdinal? k

/-- The days from one day to another, both included, in order. -/
def through (first last : Date) : List Date :=
  numbered first.ordinal (last.ordinal + 1 - first.ordinal)

@[simp] theorem numbered_zero (first : Nat) : numbered first 0 = [] := rfl

theorem numbered_succ (first n : Nat) :
    numbered first (n + 1) = (ofOrdinal? first).toList ++ numbered (first + 1) n := by
  simp only [numbered, List.range'_succ, List.filterMap_cons]
  cases ofOrdinal? first <;> rfl

theorem numbered_ordinal (d : Date) (n : Nat) :
    numbered d.ordinal (n + 1) = d :: numbered (d.ordinal + 1) n := by
  rw [numbered_succ, ofOrdinal?_ordinal]
  rfl

theorem mem_numbered {d : Date} {first n : Nat} :
    d ∈ numbered first n ↔ first ≤ d.ordinal ∧ d.ordinal < first + n := by
  simp only [numbered, List.mem_filterMap, List.mem_range'_1, ofOrdinal?_eq_some_iff]
  constructor
  · rintro ⟨k, bounds, place⟩
    omega
  · intro bounds
    exact ⟨d.ordinal, bounds, rfl⟩

theorem mem_through {d first last : Date} : d ∈ first.through last ↔ first ≤ d ∧ d ≤ last := by
  rw [through, mem_numbered, le_iff, le_iff]
  omega

/-- Going on further only adds days at the end. -/
theorem through_isPrefix (first : Date) {last last' : Date} (h : last ≤ last') :
    first.through last <+: first.through last' := by
  rw [le_iff] at h
  have front : List.range' first.ordinal (last.ordinal + 1 - first.ordinal)
      <+: List.range' first.ordinal (last'.ordinal + 1 - first.ordinal) := by
    have more : last'.ordinal + 1 - first.ordinal = (last.ordinal + 1 - first.ordinal)
        + (last'.ordinal + 1 - max first.ordinal (last.ordinal + 1)) := by
      omega
    rw [more, ← List.range'_append_1]
    exact List.prefix_append _ _
  exact front.filterMap _

theorem numbered_sorted (first n : Nat) : (numbered first n).Pairwise (· < ·) := by
  induction n generalizing first with
  | zero => exact List.Pairwise.nil
  | succ n ih =>
      rw [numbered_succ]
      refine List.pairwise_append.mpr ⟨?_, ih (first + 1), ?_⟩
      · cases ofOrdinal? first <;> simp
      · intro d member e later
        have place := ofOrdinal?_eq_some_iff.mp (Option.mem_toList.mp member)
        have bound := (mem_numbered.mp later).1
        rw [lt_iff]
        omega

theorem through_sorted (first last : Date) : (first.through last).Pairwise (· < ·) :=
  numbered_sorted _ _

/-- Leaving out the days after a day is stopping at it. -/
theorem numbered_filter_le (e : Date) (first n : Nat) :
    (numbered first n).filter (fun d => decide (d ≤ e))
      = numbered first (min n (e.ordinal + 1 - first)) := by
  induction n generalizing first with
  | zero => simp only [numbered_zero, List.filter_nil, Nat.zero_min]
  | succ n ih =>
      by_cases past : e.ordinal < first
      · have stop : min (n + 1) (e.ordinal + 1 - first) = 0 := by omega
        rw [stop, List.filter_eq_nil_iff.mpr]
        · rfl
        · intro d member
          have bound := (mem_numbered.mp member).1
          rw [decide_eq_true_eq, le_iff]
          omega
      · have more : min (n + 1) (e.ordinal + 1 - first)
            = min n (e.ordinal + 1 - (first + 1)) + 1 := by
          omega
        rw [more, numbered_succ, numbered_succ, List.filter_append, ih]
        congr 1
        cases found : ofOrdinal? first with
        | none => rfl
        | some d =>
            have place := ofOrdinal?_eq_some_iff.mp found
            have within : d ≤ e := by
              rw [le_iff]
              omega
            simp [within]

theorem through_earlier (first last e : Date) :
    first.through (last.earlier e) = (first.through last).filter fun d => decide (d ≤ e) := by
  rw [through, through, numbered_filter_le, earlier]
  congr 1
  split
  · rename_i before
    rw [lt_iff] at before
    omega
  · rename_i notBefore
    rw [lt_iff] at notBefore
    omega

end Recurrence.Date
