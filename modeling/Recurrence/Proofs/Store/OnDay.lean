import Recurrence.Proofs.Series.Presence
import Recurrence.Proofs.Series.Rebasing
import Recurrence.Proofs.Store.Ending

/-! Whether an event has an occurrence on a day, as fetching the occurrences of that day tells. -/

namespace Recurrence

/-! The slots of an event end in the order of their days. -/

namespace Event

variable {e : Event} {day later : Date}

theorem endDay_mono (h : day ≤ later) : e.endDay day ≤ e.endDay later := by
  rw [Date.le_iff] at h
  apply Int.ediv_le_ediv (by decide)
  simp only [Moment.clockMicros_eq]
  have : (day.ordinal : Int) * microsPerDay ≤ later.ordinal * microsPerDay := by
    simp only [microsPerDay, microsPerSecond]
    omega
  omega

theorem endDay_start (e : Event) : e.endDay e.start.date = e.finish.date.ordinal := by
  have same : e.start.clockMicros + (e.finish.clockMicros - e.start.clockMicros)
      = e.finish.clockMicros := by
    omega
  exact (congrArg (· / (microsPerDay : Int)) same).trans e.finish.clockMicros_div

theorem exists_add_iff (first : e.start.date ≤ day) :
    (∃ m, ({ e.start with date := day } : Moment).add ⟨e.finish.clockMicros - e.start.clockMicros⟩
      = .ok m) ↔ e.endDay day ≤ lastOrdinal := by
  have begins := endDay_mono (e := e) first
  rw [endDay_start] at begins
  have := e.finish.date.ordinal_pos
  constructor
  · rintro ⟨m, sum⟩
    by_contra outside
    obtain ⟨fault, failed⟩ := Moment.fails_add.mpr (.inr (Int.not_le.mp outside))
    rw [sum] at failed
    cases failed
  · intro inCalendar
    apply exists_of_not_fails
    rw [Moment.fails_add]
    change ¬(e.endDay day < 1 ∨ lastOrdinal < e.endDay day)
    omega

end Event

theorem Occurrence.isWithin_day {o : Occurrence} {day : Date} :
    o.isWithin ⟨day, .midnight, none⟩ ⟨day, .last, none⟩ = decide (o.start.date = day) := by
  have micros := o.start.time.micros_lt
  have midnight : TimeOfDay.midnight.micros = 0 := by decide
  have last : TimeOfDay.last.micros + 1 = microsPerDay := by decide
  rw [isWithin, ← Bool.decide_and, decide_eq_decide, ← Date.ordinal_inj]
  simp only [Moment.clockMicros_eq, midnight]
  simp only [microsPerDay, microsPerSecond] at *
  omega

/-- What bounds the occurrences of an event besides its rule and the window. -/
def Conditions.bounds (c : Conditions) : Bounds :=
  { maxInstances := c.queryLimit, horizonYears := c.horizonYears }

namespace Store

/-- Whether an event has an occurrence that starts on a day. -/
def hasOccurrence (s : Store) (c : Conditions) (id : Int) (day : Date) : Except Fault Bool :=
  (s.call (getOccurrences c id ⟨day, .midnight, none⟩ ⟨day, .last, none⟩)).1.map
    fun (inside, _) => !inside.isEmpty

variable {s : Store} {c : Conditions} {id : Int} {e : Event} {rule : Rule} {day horizon : Date}
  {overrides : List Override} {text : Text}

/-- Up to the horizon a series without a count has an occurrence on the days of its rule that are
not cancelled. -/
theorem hasOccurrence_eq (read : s.tables.read c.standpoint id = .ok e)
    (recurring : e.rule? c.standpoint = .ok (some rule)) (uncounted : rule.count = none)
    (naive : e.start.offset = none ∧ e.finish.offset = none)
    (overridden : s.tables.overrides c.standpoint id = .ok overrides) (written : rule.write = .ok text)
    (reaches : rule.ReachesHorizon e.start.date c.bounds horizon) (upTo : day ≤ horizon)
    (inCalendar : day.ordinal < lastOrdinal) (slot : e.endDay day ≤ lastOrdinal) :
    s.hasOccurrence c id day
      = .ok (rule.ends.all (fun x => decide (day ≤ x.date)) && rule.occursOn e.start.date day
          && !(Override.lastFor? overrides day).any Override.isCancelled) := by
  have slots : ∀ d : Date, e.start.date ≤ d → d ≤ day →
      ∃ m, ({ e.start with date := d } : Moment).add ⟨e.finish.clockMicros - e.start.clockMicros⟩
        = .ok m :=
    fun d first within =>
      (Event.exists_add_iff first).mpr (Int.le_trans (Event.endDay_mono within) slot)
  obtain ⟨all, expanded⟩ := @Series.exists_expand ⟨e.start, e.finish, rule⟩ _ (.ofList overrides) c.bounds
    (.moment ⟨day, .last, none⟩) horizon (Moment.since_of_naive naive.2 naive.1) reaches.years inCalendar
    slots
  have within : occurrencesWithin ⟨day, .midnight, none⟩ ⟨day, .last, none⟩ all
      = .ok (all.filter fun o => decide (o.start.date = day)) := by
    rw [Series.occurrencesWithin_of_expand rfl rfl naive.1 expanded]
    apply congrArg Except.ok
    apply List.filter_congr
    exact fun o _ => Occurrence.isWithin_day
  have fetched := (Tables.occurrences_eq_ok read recurring).mpr
    ⟨rfl, overrides, overridden, all, expanded, within, text, written⟩
  obtain ⟨notes, answer⟩ := s.call_getOccurrences c id ⟨day, .midnight, none⟩ ⟨day, .last, none⟩
  rw [hasOccurrence, answer, fetched]
  have listed : (!(all.filter fun o => decide (o.start.date = day)).isEmpty) = true
      ↔ ∃ o ∈ all, o.start.date = day := by
    simp only [Bool.not_eq_true', List.isEmpty_eq_false_iff_exists_mem, List.mem_filter,
      decide_eq_true_eq]
  have present := @Series.exists_date_iff ⟨e.start, e.finish, rule⟩ c.bounds overrides all _ horizon
    uncounted reaches expanded day
  apply congrArg Except.ok
  rw [Bool.eq_iff_iff]
  refine (listed.trans present).trans ?_
  rw [Series.memberDays, List.mem_filter, Date.mem_through]
  simp only [Bool.and_eq_true, Bool.not_eq_true', Option.all_some, decide_eq_true_eq]
  constructor
  · rintro ⟨⟨-, ⟨within, -⟩, member⟩, kept⟩
    exact ⟨⟨within, member⟩, kept⟩
  · rintro ⟨⟨within, member⟩, kept⟩
    have first : e.start.date ≤ day := Rule.le_of_occursOn member
    exact ⟨⟨⟨first, upTo⟩, ⟨within, Nat.le_refl _⟩, member⟩, kept⟩

end Store

end Recurrence
