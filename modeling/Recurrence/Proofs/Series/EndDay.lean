import Recurrence.Proofs.Rule.RoundTrip
import Recurrence.Proofs.Series.Listing

/-! Rules that end at a moment. Writing and expanding such a rule ask for the calendar day of its end
alone. The check sets the end itself against a day, and there it fails. -/

namespace Recurrence

/-- The rule with its end brought down to the calendar day. -/
def Rule.endingOnDay (r : Rule) : Rule := { r with ends := r.ends.map fun e => .day e.date }

namespace Rule

variable {r : Rule} {today : Date} {m : Moment}

theorem date_endingOnDay (r : Rule) : r.endingOnDay.ends.map Stamp.date = r.ends.map Stamp.date := by
  rw [endingOnDay, Option.map_map]
  rfl

theorem endingOnDay_eq_self (noMoment : ¬ ∃ m, r.ends = some (.moment m)) : r.endingOnDay = r := by
  rcases r with ⟨frequency, interval, byDay, byMonthDay, byMonth, count, _ | ⟨day⟩ | ⟨m⟩⟩
  · rfl
  · rfl
  · exact absurd ⟨m, rfl⟩ noMoment

theorem boundParts_endingOnDay (r : Rule) : r.endingOnDay.boundParts = r.boundParts := by
  have count : r.endingOnDay.count? = r.count? := rfl
  rw [boundParts, boundParts, count, endingOnDay]
  cases r.count? with
  | some n => rfl
  | none => cases r.ends <;> rfl

theorem write_endingOnDay (r : Rule) : r.endingOnDay.write = r.write := by
  rw [write, write, boundParts_endingOnDay]
  rfl

theorem problems_of_moment (ends : r.ends = some (.moment m)) :
    r.problems today = .error .momentAgainstDay := by
  rw [problems, endsBefore, ends]
  rfl

/-- A day is always comparable with a day, so the check reports. -/
theorem exists_problems_endingOnDay (r : Rule) (today : Date) :
    ∃ ps, r.endingOnDay.problems today = .ok ps := by
  have compared : ∃ late, r.endingOnDay.endsBefore today = .ok late := by
    rw [endsBefore, endingOnDay]
    cases r.ends with
    | none => exact ⟨false, rfl⟩
    | some e => exact ⟨_, rfl⟩
  obtain ⟨late, order⟩ := compared
  rw [problems, order]
  exact ⟨_, rfl⟩

end Rule

theorem Series.expand_endingOnDay (s : Series) (overrides : OverrideSet) (b : Bounds) :
    ({ s with rule := s.rule.endingOnDay } : Series).expand overrides b = s.expand overrides b := by
  have days : s.rule.endingOnDay.occursOn s.anchor = s.rule.occursOn s.anchor := rfl
  have count : s.rule.endingOnDay.count = s.rule.count := rfl
  exact expand_congr_of_endDay days count s.rule.date_endingOnDay overrides b

/-- Of the end of a rule its text and its expansions tell the calendar day only. The check reports on the
rule that ends on that day, and says the same of the rule itself unless this ends at a moment: then it
fails. -/
theorem Rule.agree_endingOnDay (r : Rule) (today : Date) :
    r.endingOnDay.write = r.write
      ∧ (∀ (start finish : Moment) (overrides : OverrideSet) (b : Bounds),
          Series.expand ⟨start, finish, r.endingOnDay⟩ overrides b
            = Series.expand ⟨start, finish, r⟩ overrides b)
      ∧ (∃ ps, r.endingOnDay.problems today = .ok ps)
      ∧ (r.endingOnDay.problems today = r.problems today ↔ ¬ ∃ m, r.ends = some (.moment m))
      ∧ ∀ m, r.ends = some (.moment m) → r.problems today = .error .momentAgainstDay := by
  obtain ⟨ps, reported⟩ := r.exists_problems_endingOnDay today
  have checked : r.endingOnDay.problems today = r.problems today ↔ ¬ ∃ m, r.ends = some (.moment m) := by
    constructor
    · rintro same ⟨m, ends⟩
      rw [reported, problems_of_moment ends] at same
      cases same
    · intro noMoment
      rw [endingOnDay_eq_self noMoment]
  exact ⟨r.write_endingOnDay, fun start finish => Series.expand_endingOnDay ⟨start, finish, r⟩,
    ⟨ps, reported⟩, checked, fun m => problems_of_moment⟩

/-- Every day up to ten o'clock on 31 January 2024, in the text as up to that day; the check of the one
fails and that of the other finds nothing. -/
theorem Rule.agree_endingOnDay_daily :
    let lastDay : Date := ⟨2024, 1, 31, by decide⟩
    let ten : Moment := ⟨lastDay, ⟨10, 0, 0, 0, by decide⟩, none⟩
    let daily : Rule := { frequency := some .daily, ends := some (.moment ten) }
    let newYear : Date := ⟨2024, 1, 1, by decide⟩
    daily.endingOnDay = { daily with ends := some (.day lastDay) }
      ∧ daily.endingOnDay.write = daily.write
      ∧ daily.endingOnDay.problems newYear = .ok []
      ∧ daily.problems newYear = .error .momentAgainstDay := by
  intro lastDay ten daily newYear
  obtain ⟨text, -, -, -, fails⟩ := agree_endingOnDay daily newYear
  have reported : (daily.endingOnDay.problems newYear).toOption = some [] := by decide
  exact ⟨rfl, text, eq_ok_of_toOption reported, fails ten rfl⟩

end Recurrence
