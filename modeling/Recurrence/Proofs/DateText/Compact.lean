import Recurrence.Proofs.Calendar.Ordinal
import Recurrence.Proofs.Fault
import Recurrence.Proofs.Text.Numeral
import Recurrence.DateText.Reading

/-! A compact date of the year 1000 or later is read as that date, whatever the day of reading:
its eight digits are one token, the first four of which are the year. -/

namespace Recurrence

theorem isLetter_of_isDigit {c : Char} (h : c.isDigit = true) : isLetter c = false := by
  have bounds := digit_bounds h
  have ascii : c.toNat < 128 := by omega
  rw [isLetter, if_pos ascii]
  change (decide (65 ≤ c.toNat ∧ c.toNat ≤ 90) || decide (97 ≤ c.toNat) && decide (c.toNat ≤ 122))
    = false
  simp only [Bool.or_eq_false_iff, Bool.and_eq_false_iff, decide_eq_false_iff_not]
  omega

theorem isDigitLike_of_isDigit {c : Char} (h : c.isDigit = true) : isDigitLike c = true := by
  rw [isDigitLike, isDigit, digitValue?_of_isDigit h]
  rfl

theorem isDigit_of_mem_padded {width n : Nat} {c : Char} (h : c ∈ decimalPadded width n) :
    c.isDigit = true := by
  rcases List.mem_append.mp h with zero | digit
  · rw [(List.mem_replicate.mp zero).2]
    decide
  · exact isDigit_of_mem_decimal digit

namespace Date

theorem isDigit_of_mem_compactText {d : Date} {c : Char} (h : c ∈ d.compactText) :
    c.isDigit = true := by
  rcases List.mem_append.mp h with front | day
  · rcases List.mem_append.mp front with year | month
    · exact isDigit_of_mem_decimal year
    · exact isDigit_of_mem_padded month
  · exact isDigit_of_mem_padded day

theorem compactText_ne_nil (d : Date) : d.compactText ≠ [] := fun empty =>
  decimal_ne_nil d.year (List.append_eq_nil_iff.mp (List.append_eq_nil_iff.mp empty).1).1

theorem month_lt (d : Date) : d.month < 100 := by
  have := d.isDate.2.2.2.1
  omega

theorem day_lt (d : Date) : d.day < 100 := by
  have := d.isDate.2.2.2.2.2
  have := daysInMonth_le d.year d.month
  omega

end Date

namespace DateText

/-- The standpoint on the first day of all, with years of two digits around 2000. -/
def Standpoint.first : Standpoint := ⟨Date.first, .millennium⟩

section Digits

variable {t : Text} (digits : ∀ c ∈ t, c.isDigit = true)
include digits

theorem extend_of_isDigit (read : Text) :
    Run.extend .number false read t = ⟨.number, false, t.reverse ++ read, []⟩ := by
  induction t generalizing read with
  | nil => rfl
  | cons c r ih =>
      have next : Mode.next? (read.headD ' ') read.length c .number = some .number :=
        if_pos (isDigitLike_of_isDigit (digits c List.mem_cons_self))
      rw [Run.extend, next]
      simp only [List.reverse_cons, List.append_assoc, List.singleton_append]
      exact ih (fun d later => digits d (List.mem_cons_of_mem c later)) (c :: read)

/-- Digits make one token. -/
theorem tokens_of_isDigit (nonempty : t ≠ []) : tokens t = [t] := by
  have kept : t.filter (fun c => c.toNat != 0) = t := by
    apply List.filter_eq_self.mpr
    intro c member
    have := digit_bounds (digits c member)
    exact bne_iff_ne.mpr (by omega)
  rw [tokens, kept]
  cases t with
  | nil => exact absurd rfl nonempty
  | cons c r =>
      have first := digits c List.mem_cons_self
      have rest : ∀ d ∈ r, d.isDigit = true := fun d later => digits d (List.mem_cons_of_mem c later)
      rw [List.length_cons, tokensWithin, isLetter_of_isDigit first, isDigitLike_of_isDigit first]
      simp only [Bool.false_eq_true, if_false, if_true, extend_of_isDigit rest, Run.tokens,
        List.reverse_append, List.reverse_reverse, List.reverse_cons, List.reverse_nil,
        List.nil_append, List.singleton_append]
      cases r.length <;> rfl

theorem digitsValue?_of_isDigit (nonempty : t ≠ []) :
    digitsValue? t = some (Nat.ofDigitChars 10 t 0) := by
  have each : t.mapM digitValue? = some (t.map digitWorth) := by
    clear nonempty
    induction t with
    | nil => rfl
    | cons c r ih =>
        rw [List.mapM_cons, digitValue?_of_isDigit (digits c List.mem_cons_self),
          ih fun d later => digits d (List.mem_cons_of_mem c later)]
        rfl
  have filled : t.isEmpty = false := List.isEmpty_eq_false_iff.mpr nonempty
  rw [digitsValue?, filled, each, ← Integer.ofDigits_map_digitWorth]
  rfl

theorem numeral_of_isDigit (nonempty : t ≠ []) :
    Numeral.of? t = some ⟨Nat.ofDigitChars 10 t 0, 0, 0⟩ := by
  have noStop : '.' ∉ t := fun member => ne_of_test (digits _ member) (by decide) rfl
  rw [Numeral.of?, Text.cut?_eq_none noStop]
  dsimp only
  rw [digitsValue?_of_isDigit digits nonempty]
  rfl

end Digits

theorem ofDigitChars_decimal (n : Nat) : Nat.ofDigitChars 10 (decimal n) 0 = n := by
  rw [decimal, Nat.ofDigitChars_ten_toDigits]

theorem ofDigitChars_padded (width n : Nat) : Nat.ofDigitChars 10 (decimalPadded width n) 0 = n := by
  rw [decimalPadded, Text.padLeft, Nat.ofDigitChars_append, Nat.ofDigitChars_replicate_zero,
    Nat.mul_zero, ofDigitChars_decimal]

theorem digitsValue?_decimal (n : Nat) : digitsValue? (decimal n) = some n := by
  rw [digitsValue?_of_isDigit (fun _ member => isDigit_of_mem_decimal member) (decimal_ne_nil n),
    ofDigitChars_decimal]

theorem digitsValue?_padded (width n : Nat) : digitsValue? (decimalPadded width n) = some n := by
  have nonempty : decimalPadded width n ≠ [] :=
    fun empty => decimal_ne_nil n (List.append_eq_nil_iff.mp empty).2
  rw [digitsValue?_of_isDigit (fun _ member => isDigit_of_mem_padded member) nonempty,
    ofDigitChars_padded]

theorem length_padded_two {n : Nat} (h : n < 100) : (decimalPadded 2 n).length = 2 := by
  rw [decimalPadded_two h]
  rfl

section Compact

variable {d : Date} (year : 1000 ≤ d.year)
include year

theorem length_year : (decimal d.year).length = 4 := by
  rw [decimal_four year d.isDate.2.1]
  rfl

theorem length_compactText : d.compactText.length = 8 := by
  rw [Date.compactText, List.length_append, List.length_append, length_year year,
    length_padded_two d.month_lt, length_padded_two d.day_lt]

theorem take_compactText : d.compactText.take 4 = decimal d.year := by
  rw [Date.compactText, List.append_assoc]
  exact List.take_left' (length_year year)

theorem drop_compactText :
    d.compactText.drop 4 = decimalPadded 2 d.month ++ decimalPadded 2 d.day := by
  rw [Date.compactText, List.append_assoc]
  exact List.drop_left' (length_year year)

theorem month_compactText : (d.compactText.drop 4).take 2 = decimalPadded 2 d.month := by
  rw [drop_compactText year]
  exact List.take_left' (length_padded_two d.month_lt)

theorem day_compactText : (d.compactText.drop 6).take 2 = decimalPadded 2 d.day := by
  have skip : d.compactText.drop 6 = (d.compactText.drop 4).drop 2 := by rw [List.drop_drop]
  rw [skip, drop_compactText year, List.drop_left' (length_padded_two d.month_lt)]
  exact List.take_of_length_le (Nat.le_of_eq (length_padded_two d.day_lt))

/-- Eight digits are read as year, month and day. -/
theorem longDigits_compactText :
    ({} : Fields).longDigits 0 d.compactText
      = .ok (1, { members :=
          { values := [d.year, d.month, d.day], yearAt := some 0, hasCentury := true } }) := by
  simp only [Fields.longDigits, take_compactText year, month_compactText year,
    day_compactText year, length_compactText year, Members.addToken?, digitsValue?_decimal,
    digitsValue?_padded, length_year year, length_padded_two d.month_lt,
    length_padded_two d.day_lt]
  rfl

theorem step_compactText (base : BaseYear) :
    ({} : Fields).step base #[d.compactText] 0
      = .ok (1, { members :=
          { values := [d.year, d.month, d.day], yearAt := some 0, hasCentury := true } }) := by
  have digits : ∀ c ∈ d.compactText, c.isDigit = true := fun _ => Date.isDigit_of_mem_compactText
  have noStop : d.compactText.findIdx (fun c => c == '.') = 8 := by
    rw [List.findIdx_eq_length_of_false, length_compactText year]
    intro c member
    exact beq_eq_false_iff_ne.mpr (ne_of_test (digits c member) (by decide))
  have token : (#[d.compactText] : Array Text)[0]? = some d.compactText := rfl
  rw [Fields.step, token]
  simp only [orNoDate, ok_bind, numeral_of_isDigit digits d.compactText_ne_nil,
    Fields.number, length_compactText year, noStop]
  exact longDigits_compactText year

theorem read_compactText (here : Standpoint) :
    read here d.compactText = .ok ⟨d, TimeOfDay.midnight, none⟩ := by
  have digits : ∀ c ∈ d.compactText, c.isDigit = true := fun _ => Date.isDigit_of_mem_compactText
  rw [read, tokens_of_isDigit digits d.compactText_ne_nil]
  simp only [List.size_toArray, List.length_singleton, Fields.readFrom, Nat.zero_lt_one, if_true,
    step_compactText year, ok_bind]
  simp [Fields.isEmpty, Fields.moment?, Members.resolve?, Members.three, BaseYear.fullYear,
    Fields.offset, TimeOfDay.of?, TimeOfDay.midnight, IsTime, microsPerSecond, orNoDate]

/-- A compact date is read as that date. -/
theorem day?_compactText (here : Standpoint) : day? here d.compactText = .ok (some d) := by
  have bare : d.compactText.strip = d.compactText :=
    Text.strip_eq_self fun _ member => isBlank_of_isDigit (Date.isDigit_of_mem_compactText member)
  have filled : d.compactText.isEmpty = false :=
    List.isEmpty_eq_false_iff.mpr d.compactText_ne_nil
  rw [day?, bare, filled, moment?, read_compactText year]
  rfl

end Compact

end DateText

end Recurrence
