import Recurrence.DateText.Digits
import Recurrence.Proofs.DateText.Compact
import Recurrence.Proofs.Pattern

/-! The parts of a date or a time that are written in two digits, and a year of four, are taken as
they were written. Which choice takes a part is settled by its first digit. -/

namespace Recurrence.DateText

open Pattern

section Digit

variable {d : Nat}

theorem takes_anyDigit (h : d < 10) : Takes anyDigit [Nat.digitChar d] := by
  apply takes_char
  rw [isDigit, digitValue?_of_isDigit (isDigit_digitChar h)]
  rfl

theorem takes_digitIn {t : String} (h : t.toList.contains (Nat.digitChar d) = true) :
    Takes (digitIn t) [Nat.digitChar d] := takes_char h

theorem refuses_digitIn {t : String} (h : t.toList.contains (Nat.digitChar d) = false) :
    Refuses (digitIn t) (Nat.digitChar d) := refuses_char h

theorem takes_positive (low : 1 ≤ d) (high : d < 10) :
    Takes (digitIn "123456789") [Nat.digitChar d] := by
  have each : ∀ d < 10, 1 ≤ d → "123456789".toList.contains (Nat.digitChar d) = true := by decide
  exact takes_digitIn (each d high low)

end Digit

theorem takes_year {y : Nat} (low : 1000 ≤ y) (high : y ≤ 9999) : Takes yearDigits (decimal y) := by
  rw [decimal_four low high]
  have thousands := takes_anyDigit (d := y / 1000) (by omega)
  have hundreds := takes_anyDigit (d := y / 100 % 10) (by omega)
  have tens := takes_anyDigit (d := y / 10 % 10) (by omega)
  have ones := takes_anyDigit (d := y % 10) (by omega)
  exact thousands.sequence (hundreds.sequence (tens.sequence (ones.sequence takes_empty)))

section Padded

variable {n : Nat}

theorem takes_month (low : 1 ≤ n) (high : n ≤ 12) : Takes monthDigits (decimalPadded 2 n) := by
  rw [decimalPadded_two (by omega)]
  have front : n / 10 = 0 ∨ n / 10 = 1 := by omega
  rcases front with zero | one
  · rw [zero]
    apply Refuses.choice
    · exact Refuses.sequence (refuses_letter (by decide))
    · apply Takes.choice
      exact (takes_letter (by decide)).pair (takes_positive (by omega) (by omega))
  · have ones : ∀ d < 3, "012".toList.contains (Nat.digitChar d) = true := by decide
    rw [one]
    apply Takes.choice
    exact (takes_letter (by decide)).pair (takes_digitIn (ones (n % 10) (by omega)))

theorem takes_day (low : 1 ≤ n) (high : n ≤ 31) : Takes dayDigits (decimalPadded 2 n) := by
  rw [decimalPadded_two (by omega)]
  have front : n / 10 = 0 ∨ n / 10 = 1 ∨ n / 10 = 2 ∨ n / 10 = 3 := by omega
  rcases front with zero | one | two | three
  · rw [zero]
    apply Refuses.choice
    · exact Refuses.sequence (refuses_letter (by decide))
    · apply Refuses.choice
      · exact Refuses.sequence (refuses_digitIn (by decide))
      · apply Takes.choice
        exact (takes_letter (by decide)).pair (takes_positive (by omega) (by omega))
  · rw [one]
    apply Refuses.choice
    · exact Refuses.sequence (refuses_letter (by decide))
    · apply Takes.choice
      exact (takes_digitIn (by decide)).pair (takes_anyDigit (by omega))
  · rw [two]
    apply Refuses.choice
    · exact Refuses.sequence (refuses_letter (by decide))
    · apply Takes.choice
      exact (takes_digitIn (by decide)).pair (takes_anyDigit (by omega))
  · have ones : ∀ d < 2, "01".toList.contains (Nat.digitChar d) = true := by decide
    rw [three]
    apply Takes.choice
    exact (takes_letter (by decide)).pair (takes_digitIn (ones (n % 10) (by omega)))

theorem takes_hour (h : n < 24) : Takes hourDigits (decimalPadded 2 n) := by
  rw [decimalPadded_two (by omega)]
  by_cases evening : n / 10 = 2
  · have ones : ∀ d < 4, "0123".toList.contains (Nat.digitChar d) = true := by decide
    rw [evening]
    apply Takes.choice
    exact (takes_letter (by decide)).pair (takes_digitIn (ones (n % 10) (by omega)))
  · have early : ∀ d < 2, sameLetter '2' (Nat.digitChar d) = false
        ∧ "01".toList.contains (Nat.digitChar d) = true := by decide
    obtain ⟨no, yes⟩ := early (n / 10) (by omega)
    apply Refuses.choice
    · exact Refuses.sequence (refuses_letter no)
    · apply Takes.choice
      exact (takes_digitIn yes).pair (takes_anyDigit (by omega))

theorem takes_minute (h : n < 60) : Takes minuteDigits (decimalPadded 2 n) := by
  have tens : ∀ d < 6, "012345".toList.contains (Nat.digitChar d) = true := by decide
  rw [decimalPadded_two (by omega)]
  apply Takes.choice
  exact (takes_digitIn (tens (n / 10) (by omega))).pair (takes_anyDigit (by omega))

theorem takes_second (h : n < 60) : Takes secondDigits (decimalPadded 2 n) := by
  have tens : ∀ d < 6, sameLetter '6' (Nat.digitChar d) = false
      ∧ "012345".toList.contains (Nat.digitChar d) = true := by decide
  obtain ⟨no, yes⟩ := tens (n / 10) (by omega)
  rw [decimalPadded_two (by omega)]
  apply Refuses.choice
  · exact Refuses.sequence (refuses_letter no)
  · apply Takes.choice
    exact (takes_digitIn yes).pair (takes_anyDigit (by omega))

end Padded

/-- The number in a group of ASCII digits. -/
theorem numberIn_of_isDigit {p : Place} {index : Nat} {t : Text} (kept : p.group? index = some t)
    (digits : ∀ c ∈ t, c.isDigit = true) : numberIn p index = Nat.ofDigitChars 10 t 0 := by
  have worth : t.filterMap digitValue? = t.map digitWorth := by
    clear kept
    induction t with
    | nil => rfl
    | cons c r ih =>
        rw [List.filterMap_cons, digitValue?_of_isDigit (digits c List.mem_cons_self), List.map_cons,
          ih fun d later => digits d (List.mem_cons_of_mem c later)]
  rw [numberIn, kept, Option.getD_some, worth, Integer.ofDigits_map_digitWorth]

end Recurrence.DateText
