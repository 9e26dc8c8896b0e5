import Recurrence.Proofs.Fault
import Recurrence.Proofs.Rule.RoundTrip

/-! What a rule that passes the check is like. If it can be written as well, its text tells all of
it but an end beside a count. -/

namespace Recurrence.Rule

/-- Nothing is wrong with a rule on a day. -/
structure Passes (r : Rule) (today : Date) : Prop where
  frequency : r.frequency.isSome
  interval : ∀ n, r.interval = some n → 1 ≤ n
  count : ∀ n, r.count = some n → 1 ≤ n
  ends : r.endsBefore today = .ok false
  byMonthDay : ∀ n ∈ r.byMonthDay, 1 ≤ n ∧ n ≤ 31
  byMonth : ∀ n ∈ r.byMonth, 1 ≤ n ∧ n ≤ 12
  byDay : ∀ c ∈ r.byDay, ∃ w : Weekday, w.code = c

variable {r : Rule} {today : Date}

theorem check_eq_ok : r.check today = .ok () ↔ r.problems today = .ok [] := by
  unfold check
  cases r.problems today with
  | error fault => exact ⟨nofun, nofun⟩
  | ok problems =>
      cases problems with
      | nil => exact ⟨fun _ => rfl, fun _ => rfl⟩
      | cons p ps => exact ⟨nofun, nofun⟩

/-- A problem that is not listed is not there. -/
theorem absent_of_nil {p : RuleProblem} {b : Bool} (h : (if b then [p] else []) = []) : b = false := by
  cases b with
  | false => rfl
  | true => cases h

theorem positive_of_none {given : Option Int} (h : given.any (· < 1) = false) :
    ∀ n, given = some n → 1 ≤ n := by
  rintro n rfl
  rw [Option.any_some, decide_eq_false_iff_not] at h
  omega

theorem within_of_none {ns : List Int} {low high : Int}
    (h : (ns.any fun n => !(decide (low ≤ n) && decide (n ≤ high))) = false) :
    ∀ n ∈ ns, low ≤ n ∧ n ≤ high := by
  intro n member
  have inside := List.any_eq_false.mp h n member
  rw [Bool.not_eq_true, Bool.not_eq_false', Bool.and_eq_true, decide_eq_true_eq,
    decide_eq_true_eq] at inside
  exact inside

theorem passes_of_check (h : r.check today = .ok ()) : r.Passes today := by
  obtain ⟨late, ends, none⟩ := map_eq_ok.mp (check_eq_ok.mp h)
  simp only [List.append_eq_nil_iff] at none
  obtain ⟨⟨⟨⟨⟨⟨frequency, interval⟩, count⟩, early⟩, monthDay⟩, month⟩, weekday⟩ := none
  exact {
    frequency := Option.isNone_eq_false_iff.mp (absent_of_nil frequency)
    interval := positive_of_none (absent_of_nil interval)
    count := positive_of_none (absent_of_nil count)
    ends := by
      rw [ends, absent_of_nil early]
    byMonthDay := within_of_none (absent_of_nil monthDay)
    byMonth := within_of_none (absent_of_nil month)
    byDay := by
      intro c member
      have known := List.any_eq_false.mp (absent_of_nil weekday) c member
      rw [Option.isNone_iff_eq_none] at known
      obtain ⟨w, found⟩ := Option.ne_none_iff_exists'.mp known
      exact ⟨w, Weekday.code_of_ofCode? found⟩ }

theorem check_of_passes (h : r.Passes today) : r.check today = .ok () := by
  have interval : r.interval.any (· < 1) = false := by
    rw [Option.any_eq_false]
    exact fun n given => decide_eq_false (Int.not_lt.mpr (h.interval n given))
  have count : r.count.any (· < 1) = false := by
    rw [Option.any_eq_false]
    exact fun n given => decide_eq_false (Int.not_lt.mpr (h.count n given))
  have monthDay : (r.byMonthDay.any fun n => !(decide (1 ≤ n) && decide (n ≤ 31))) = false := by
    rw [List.any_eq_false]
    intro n member
    simp [h.byMonthDay n member]
  have month : (r.byMonth.any fun n => !(decide (1 ≤ n) && decide (n ≤ 12))) = false := by
    rw [List.any_eq_false]
    intro n member
    simp [h.byMonth n member]
  have weekday : (r.byDay.any fun c => (Weekday.ofCode? c).isNone) = false := by
    rw [List.any_eq_false]
    intro c member
    obtain ⟨w, rfl⟩ := h.byDay c member
    rw [Weekday.ofCode?_code]
    exact Bool.false_ne_true
  rw [check_eq_ok, problems, h.ends, Option.isNone_eq_false_iff.mpr h.frequency, interval, count,
    monthDay, month, weekday]
  rfl

/-- A rule that passes the check on some day ends on a day, if it ends. -/
theorem Passes.ends_day (h : r.Passes today) : ∀ s, r.ends = some s → ∃ d, s = .day d := by
  intro s given
  have early := h.ends
  rw [endsBefore, given] at early
  cases s with
  | day d => exact ⟨d, rfl⟩
  | moment m => cases early

/-- No day is before the first one, so only the other parts of the rule count there. -/
theorem endsBefore_first (h : ∀ s, r.ends = some s → ∃ d, s = .day d) :
    r.endsBefore Date.first = .ok false := by
  unfold endsBefore
  cases given : r.ends with
  | none => rfl
  | some s =>
      obtain ⟨d, rfl⟩ := h s given
      have notBefore : ¬ d < Date.first := by
        have positive := d.ordinal_pos
        have one : Date.first.ordinal = 1 := by decide
        rw [Date.lt_iff]
        omega
      exact congrArg Except.ok (decide_eq_false notBefore)

theorem Passes.onFirst (h : r.Passes today) : r.Passes Date.first :=
  { h with ends := endsBefore_first h.ends_day }

/-- What can be written has no numeral that is too long. -/
theorem isShort_of_write {t : Text} (h : r.write = .ok t) :
    (∀ n, r.interval = some n → 1 < n → Integer.IsShort n)
      ∧ ∀ n, r.count = some n → n ≠ 0 → Integer.IsShort n := by
  unfold write at h
  split at h
  · cases h
  · obtain ⟨_, interval, h⟩ := bind_eq_ok.mp h
    obtain ⟨_, _, h⟩ := bind_eq_ok.mp h
    obtain ⟨_, _, h⟩ := bind_eq_ok.mp h
    obtain ⟨_, bound, _⟩ := bind_eq_ok.mp h
    constructor
    · intro n given more
      obtain ⟨_, text, _⟩ := map_eq_ok.mp interval
      rw [intervalText, given] at text
      dsimp only at text
      rw [if_pos more] at text
      obtain ⟨_, numeral, _⟩ := map_eq_ok.mp text
      exact (Integer.write_eq_ok numeral).1
    · intro n given nonzero
      have counted : r.count? = some n := by
        rw [count?, given, Option.filter_some, if_pos (decide_eq_true nonzero)]
      rw [boundParts, counted] at bound
      obtain ⟨_, numeral, _⟩ := map_eq_ok.mp bound
      exact (Integer.write_eq_ok numeral).1

theorem isShort_of_bounds {n : Int} (low : 1 ≤ n) (high : n ≤ 31) : Integer.IsShort n := by
  apply Integer.isShort_of_fitsWord
  rw [fitsWord, Bool.and_eq_true, decide_eq_true_eq, decide_eq_true_eq, wordLimit]
  omega

/-- A rule with an interval that passes the check and can be written is plain, if it has no end
or ends on a day of the year 1000 or later. -/
theorem isPlain_of_passes {t : Text} (h : r.Passes today) (written : r.write = .ok t)
    (interval : r.interval.isSome)
    (ends : ∀ s, r.ends = some s → ∃ d, s = .day d ∧ 1000 ≤ d.year) : r.IsPlain where
  frequency := h.frequency
  interval := by
    obtain ⟨n, given⟩ := Option.isSome_iff_exists.mp interval
    have positive := h.interval n given
    refine ⟨n, given, positive, ?_⟩
    by_cases one : n = 1
    · rw [one]
      exact isShort_of_bounds (by decide) (by decide)
    · exact (isShort_of_write written).1 n given (by omega)
  byDay := h.byDay
  byMonthDay := fun n member => isShort_of_bounds (h.byMonthDay n member).1 (h.byMonthDay n member).2
  byMonth := by
    intro n member
    have := h.byMonth n member
    exact isShort_of_bounds this.1 (by omega)
  count := by
    intro n given
    have positive := h.count n given
    have nonzero : n ≠ 0 := by omega
    exact ⟨nonzero, (isShort_of_write written).2 n given nonzero⟩
  ends := ends

end Recurrence.Rule
