import Recurrence.Proofs.Calendar.Ordinal
import Recurrence.Proofs.DateText.Digits
import Recurrence.Proofs.DateText.EarlyYear
import Recurrence.Store.StoredMoment

/-! A stored moment of the year 1000 or later is read as it was written: its day and its time of
day to the second, without an offset. Whatever was written, what is read could have been. -/

namespace Recurrence

namespace StoredMoment

open Pattern DateText

variable {m : Moment}

/-- The groups of a moment's text behind its end, the last one first. -/
def groupsOf (m : Moment) : List (Nat × Text × Text) :=
  let second := decimalPadded 2 m.time.second
  let minute := decimalPadded 2 m.time.minute ++ second
  let hour := decimalPadded 2 m.time.hour ++ minute
  let day := decimalPadded 2 m.date.day ++ 'T' :: hour
  let month := decimalPadded 2 m.date.month ++ day
  let year := decimal m.date.year ++ month
  [(6, second, []), (5, minute, second), (4, hour, minute), (3, day, 'T' :: hour), (2, month, day),
    (1, year, month)]

/-- The pattern takes the text part by part and ends behind it. -/
theorem outcomes_compactText (year : 1000 ≤ m.date.year) :
    ∃ before, (pattern.outcomes ⟨none, m.compactText, []⟩).head?
      = some ⟨before, [], groupsOf m⟩ := by
  obtain ⟨-, lastYear, firstMonth, lastMonth, firstDay, lastDay⟩ := m.date.isDate
  obtain ⟨hour, minute, second, -⟩ := m.time.isTime
  have monthEnd : m.date.day ≤ 31 := Nat.le_trans lastDay (daysInMonth_le _ _)
  have whole : m.compactText = decimal m.date.year ++ (decimalPadded 2 m.date.month
      ++ (decimalPadded 2 m.date.day ++ (['T'] ++ (decimalPadded 2 m.time.hour
      ++ (decimalPadded 2 m.time.minute ++ (decimalPadded 2 m.time.second ++ [])))))) := by
    simp only [Moment.compactText, Date.compactText, List.append_assoc, List.cons_append,
      List.nil_append, List.append_nil]
  have letter : Takes (literal ['t']) ['T'] := takes_letter (by decide)
  rw [whole]
  apply Exists.intro
  apply head?_seq ((takes_year year lastYear).group 1 _ _ _)
  apply head?_seq ((takes_month firstMonth lastMonth).group 2 _ _ _)
  apply head?_seq ((takes_day firstDay monthEnd).group 3 _ _ _)
  apply head?_seq (letter _ _ _)
  apply head?_seq ((takes_hour hour).group 4 _ _ _)
  apply head?_seq ((takes_minute minute).group 5 _ _ _)
  apply head?_seq ((takes_second second).group 6 _ _ _)
  rw [List.append_nil]
  rfl

/-- What stands in front of the rest is what a group took. -/
theorem take_front (t rest : Text) : (t ++ rest).take ((t ++ rest).length - rest.length) = t := by
  rw [List.length_append, Nat.add_sub_cancel]
  exact List.take_left' rfl

theorem numberIn_year (before : Option Char) (rest : Text) :
    numberIn ⟨before, rest, groupsOf m⟩ 1 = m.date.year := by
  rw [numberIn_of_isDigit (t := decimal m.date.year), ofDigitChars_decimal]
  · exact congrArg some (take_front _ _)
  · exact fun _ => isDigit_of_mem_decimal

theorem numberIn_padded {index n : Nat} (more : Text) {p : Place}
    (found : p.groups.find? (fun g => g.1 == index) = some (index, decimalPadded 2 n ++ more, more)) :
    numberIn p index = n := by
  rw [numberIn_of_isDigit (t := decimalPadded 2 n), ofDigitChars_padded]
  · rw [Place.group?, found]
    exact congrArg some (take_front _ _)
  · exact fun _ => isDigit_of_mem_padded

/-- A moment is read back to the second, without its offset. -/
theorem read_compactText (year : 1000 ≤ m.date.year) :
    read m.compactText = .ok ⟨m.date, m.time.wholeSecond, none⟩ := by
  obtain ⟨before, found⟩ := outcomes_compactText year
  have month : numberIn ⟨before, [], groupsOf m⟩ 2 = m.date.month := numberIn_padded _ rfl
  have day : numberIn ⟨before, [], groupsOf m⟩ 3 = m.date.day := numberIn_padded _ rfl
  have hour : numberIn ⟨before, [], groupsOf m⟩ 4 = m.time.hour := numberIn_padded _ rfl
  have minute : numberIn ⟨before, [], groupsOf m⟩ 5 = m.time.minute := numberIn_padded _ rfl
  have second : numberIn ⟨before, [], groupsOf m⟩ 6 = m.time.second := by
    apply numberIn_padded []
    rw [List.append_nil]
    rfl
  have time : TimeOfDay.of? m.time.hour m.time.minute m.time.second 0 = some m.time.wholeSecond :=
    dif_pos m.time.wholeSecond.isTime
  rw [read, found]
  simp only [numberIn_year, month, day, hour, minute, second, Date.of?_self, time,
    List.isEmpty_nil, Bool.not_true, Bool.false_eq_true, if_false]

/-- A stored moment has no offset. -/
theorem offset_of_read {t : Text} (h : read t = .ok m) : m.offset = none := by
  unfold read at h
  split at h
  · cases h
  · split at h
    · cases h
    · split at h
      · cases h
        rfl
      · cases h
      · cases h

end StoredMoment

/-- A moment that a text can hold: without an offset or a fraction of a second, and in a year of
four digits. -/
structure Moment.IsStorable (m : Moment) : Prop where
  offset : m.offset = none
  whole : m.time.micro = 0
  year : 1000 ≤ m.date.year

theorem StoredMoment.read_of_isStorable {m : Moment} (h : m.IsStorable) :
    read m.compactText = .ok m := by
  obtain ⟨offset, whole, year⟩ := h
  rw [read_compactText year]
  rcases m with ⟨date, ⟨hour, minute, second, micro, isTime⟩, _⟩
  cases offset
  cases whole
  rfl

namespace StoredMoment

open Pattern DateText

/-- The year that is read is made of the first four digits. -/
theorem numberIn_of_mem_outcomes {written : Moment} {p : Place}
    (reached : p ∈ pattern.outcomes ⟨none, written.compactText, []⟩) :
    numberIn p 1 = Nat.ofDigitChars 10 (written.date.compactText.take 4) 0 := by
  obtain ⟨between, first, later⟩ := List.mem_flatMap.mp reached
  obtain ⟨q, taken, rfl⟩ := List.mem_map.mp first
  obtain ⟨⟨t, front, four, -⟩, -⟩ := @of_mem_outcomes_replicate isDigit 4 _ _ taken
  have whole : written.compactText = t ++ q.rest := front
  have long : 4 ≤ written.date.compactText.length := by
    rw [compactText_eq, List.length_append, length_behind_year]
    omega
  have same : t = written.date.compactText.take 4 := by
    have leading : (t ++ q.rest).take 4 = t := List.take_left' four
    rw [← leading, ← whole, Moment.compactText]
    simp only [List.append_assoc]
    exact List.take_append_of_le_length long
  have kept : p.group? 1 = some t := by
    rw [@group?_of_mem_outcomes _ 1 (by decide) _ _ later]
    exact congrArg some (whole ▸ take_front t q.rest)
  apply numberIn_of_isDigit (same ▸ kept)
  exact fun _ member => Date.isDigit_of_mem_compactText (List.mem_of_mem_take member)

/-- A moment that is read from what was written for some moment is one that a text can hold. -/
theorem isStorable_of_read {written m : Moment} (h : read written.compactText = .ok m) :
    m.IsStorable := by
  unfold read at h
  split at h
  · cases h
  · rename_i p found
    have year := numberIn_of_mem_outcomes (List.mem_of_mem_head? found)
    split at h
    · cases h
    · split at h
      · rename_i date time day clock
        cases h
        refine ⟨rfl, ?_, ?_⟩
        · unfold TimeOfDay.of? at clock
          split at clock
          · cases clock
            rfl
          · cases clock
        · rw [(Date.of?_eq_some day).1, year]
          exact le_take_compactText written.date
      · cases h
      · cases h

end StoredMoment

end Recurrence
