import Recurrence.Proofs.DateText.Compact

/-! Compact dates of all years. Before the year 1000 the text has less than eight digits: five and
seven of them are taken for a year that is out of range, and six for a date whose year has lost its
century. Whatever is read does not depend on the day of reading, and on the base year only for the
years of two digits. -/

namespace Recurrence.DateText

variable {d : Date}

theorem le_ofDigitChars (t : Text) (n : Nat) :
    n * Nat.pow 10 t.length ≤ Nat.ofDigitChars 10 t n := by
  induction t generalizing n with
  | nil => exact Nat.le_of_eq (Nat.mul_one n)
  | cons c r ih =>
      have next : Nat.pow 10 (r.length + 1) = Nat.pow 10 r.length * 10 := rfl
      have shifted : n * Nat.pow 10 (r.length + 1) = 10 * n * Nat.pow 10 r.length := by
        rw [next, ← Nat.mul_assoc, Nat.mul_comm _ 10, ← Nat.mul_assoc]
      rw [Nat.ofDigitChars_cons, List.length_cons, shifted]
      exact Nat.le_trans (Nat.mul_le_mul_right _ (Nat.le_add_right _ _)) (ih _)

theorem length_behind_year (d : Date) :
    (decimalPadded 2 d.month ++ decimalPadded 2 d.day).length = 4 := by
  rw [List.length_append, length_padded_two d.month_lt, length_padded_two d.day_lt]

theorem compactText_eq (d : Date) :
    d.compactText = decimal d.year ++ (decimalPadded 2 d.month ++ decimalPadded 2 d.day) :=
  List.append_assoc _ _ _

theorem lt_value_compactText (d : Date) : 9999 < Nat.ofDigitChars 10 d.compactText 0 := by
  have first := d.isDate.1
  have behind := le_ofDigitChars (decimalPadded 2 d.month ++ decimalPadded 2 d.day) d.year
  have four : Nat.pow 10 4 = 10000 := rfl
  rw [length_behind_year, four] at behind
  rw [compactText_eq, Nat.ofDigitChars_append, ofDigitChars_decimal]
  omega

theorem le_take_compactText (d : Date) : 1000 ≤ Nat.ofDigitChars 10 (d.compactText.take 4) 0 := by
  obtain ⟨c, r, front, first⟩ := exists_decimal_eq_cons d.isDate.1
  have whole : d.compactText.take 4
      = c :: (r ++ (decimalPadded 2 d.month ++ decimalPadded 2 d.day)).take 3 := by
    rw [compactText_eq, front]
    rfl
  have behind := le_ofDigitChars ((r ++ (decimalPadded 2 d.month ++ decimalPadded 2 d.day)).take 3)
    (10 * 0 + digitWorth c)
  have three : ((r ++ (decimalPadded 2 d.month ++ decimalPadded 2 d.day)).take 3).length = 3 := by
    rw [List.length_take, List.length_append, length_behind_year]
    omega
  have thousand : Nat.pow 10 3 = 1000 := rfl
  rw [three, thousand] at behind
  rw [whole, Nat.ofDigitChars_cons]
  exact Nat.le_trans (by omega) behind

theorem length_early (early : d.year < 1000) :
    d.compactText.length = 6 ∧ (decimal d.year).length = 2
      ∨ d.compactText.length = 5 ∨ d.compactText.length = 7 := by
  have upTo : ∀ k, 0 < k → ((decimal d.year).length ≤ k ↔ d.year < 10 ^ k) :=
    fun k positive => Nat.length_toDigits_le_iff (by decide) positive
  have filled := List.length_pos_iff.mpr (decimal_ne_nil d.year)
  have three := (upTo 3 (by decide)).mpr early
  rw [compactText_eq, List.length_append, length_behind_year]
  omega

theorem noStop_compactText (d : Date) : '.' ∉ d.compactText :=
  fun member => ne_of_test (Date.isDigit_of_mem_compactText member) (by decide) rfl

theorem findIdx_compactText (d : Date) :
    d.compactText.findIdx (fun c => c == '.') = d.compactText.length := by
  rw [List.findIdx_eq_length_of_false]
  intro c member
  apply beq_eq_false_iff_ne.mpr
  rintro rfl
  exact noStop_compactText d member

theorem tokens_compactText (d : Date) : tokens d.compactText = [d.compactText] :=
  tokens_of_isDigit (fun _ => Date.isDigit_of_mem_compactText) d.compactText_ne_nil

theorem day?_eq (d : Date) (here : Standpoint) :
    day? here d.compactText = (moment? here d.compactText).map fun m => m.map Moment.date := by
  have bare : d.compactText.strip = d.compactText :=
    Text.strip_eq_self fun _ member => isBlank_of_isDigit (Date.isDigit_of_mem_compactText member)
  have filled : d.compactText.isEmpty = false :=
    List.isEmpty_eq_false_iff.mpr d.compactText_ne_nil
  rw [day?, bare, filled]
  rfl

theorem step_alone (odd : d.compactText.length = 5 ∨ d.compactText.length = 7) (base : BaseYear) :
    ({} : Fields).step base #[d.compactText] 0
      = .ok (2, { members :=
          { values := [Nat.ofDigitChars 10 d.compactText 0], yearAt := some 0, hasCentury := true } }) := by
  have digits : ∀ c ∈ d.compactText, c.isDigit = true := fun _ => Date.isDigit_of_mem_compactText
  have token : (#[d.compactText] : Array Text)[0]? = some d.compactText := rfl
  have value := lt_value_compactText d
  have wide : 100 < Nat.ofDigitChars 10 d.compactText 0 := by omega
  rw [Fields.step, token]
  simp only [orNoDate, ok_bind, numeral_of_isDigit digits d.compactText_ne_nil,
    Fields.number, findIdx_compactText]
  rcases odd with length | length <;>
    simp [length, unitLabel?, Fields.alone, Fields.setMembers, orNoDate, Except.map,
      Members.addNumeral?, Members.add?, wide]

/-- Six digits are a date without a century. -/
theorem step_six (six : d.compactText.length = 6) (two : (decimal d.year).length = 2)
    (base : BaseYear) :
    ({} : Fields).step base #[d.compactText] 0
      = .ok (1, { members := { values := [d.year, d.month, d.day] } }) := by
  have digits : ∀ c ∈ d.compactText, c.isDigit = true := fun _ => Date.isDigit_of_mem_compactText
  have token : (#[d.compactText] : Array Text)[0]? = some d.compactText := rfl
  have year : d.compactText.take 2 = decimal d.year := by
    rw [compactText_eq]
    exact List.take_left' two
  have behind : d.compactText.drop 2 = decimalPadded 2 d.month ++ decimalPadded 2 d.day := by
    rw [compactText_eq]
    exact List.drop_left' two
  have month : (d.compactText.drop 2).take 2 = decimalPadded 2 d.month := by
    rw [behind]
    exact List.take_left' (length_padded_two d.month_lt)
  have day : d.compactText.drop 4 = decimalPadded 2 d.day := by
    have skip : d.compactText.drop 4 = (d.compactText.drop 2).drop 2 := by rw [List.drop_drop]
    rw [skip, behind]
    exact List.drop_left' (length_padded_two d.month_lt)
  have plain : d.compactText.contains '.' = false := by
    rw [List.contains_eq_mem, decide_eq_false_iff_not]
    exact noStop_compactText d
  rw [Fields.step, token]
  simp only [orNoDate, ok_bind, numeral_of_isDigit digits d.compactText_ne_nil,
    Fields.number, findIdx_compactText, six, Fields.sixDigits, year, month, day, plain]
  simp [Fields.setMembers, orNoDate, Except.map, Members.addToken?, digitsValue?_decimal,
    digitsValue?_padded, two, length_padded_two d.month_lt, length_padded_two d.day_lt,
    Members.add?]

/-- Six digits are read with the nearest century. -/
theorem day?_six (six : d.compactText.length = 6) (two : (decimal d.year).length = 2)
    (here : Standpoint) :
    day? here d.compactText = .ok (Date.of? (here.base.fullYear d.year false) d.month d.day) := by
  have ordered : d.month ≤ 12 ∧ d.day ≤ 31 :=
    ⟨d.isDate.2.2.2.1, Nat.le_trans d.isDate.2.2.2.2.2 (daysInMonth_le _ _)⟩
  have midnight : TimeOfDay.of? 0 0 0 0 = some TimeOfDay.midnight := rfl
  rw [day?_eq, moment?, read, tokens_compactText]
  simp only [List.size_toArray, List.length_singleton, Fields.readFrom, Nat.zero_lt_one, if_true,
    step_six six two, ok_bind]
  simp only [Fields.isEmpty, Fields.moment?, Members.resolve?, Members.three, ordered, and_self,
    or_true, if_true, List.isEmpty_cons, Bool.false_and, Bool.false_eq_true, if_false,
    Option.bind_eq_bind, Option.bind_some, Option.map_some, Option.getD_some, Option.getD_none,
    midnight]
  cases Date.of? (here.base.fullYear d.year false) d.month d.day <;> rfl

theorem day?_alone (odd : d.compactText.length = 5 ∨ d.compactText.length = 7)
    (here : Standpoint) : day? here d.compactText = .ok none := by
  have value := lt_value_compactText d
  rw [day?_eq, moment?, read, tokens_compactText]
  simp only [List.size_toArray, List.length_singleton, Fields.readFrom, Nat.zero_lt_one, if_true,
    step_alone odd, ok_bind]
  have beyond : ∀ m k, Date.of? (Nat.ofDigitChars 10 d.compactText 0) m k = none := by
    intro m k
    apply dif_neg
    rintro ⟨-, last, -⟩
    rw [lastYear] at last
    omega
  simp [Fields.isEmpty, Fields.moment?, Members.resolve?, BaseYear.fullYear, beyond, orNoDate,
    Except.map]

namespace BaseYear

variable {y : Nat} (short : y < 100) (base : BaseYear)
include short

theorem fullYear_two :
    base.fullYear y false =
      if base.year + 50 ≤ base.year / 100 * 100 + y then base.year / 100 * 100 + y - 100
      else if base.year / 100 * 100 + y + 50 < base.year then base.year / 100 * 100 + y + 100
      else base.year / 100 * 100 + y := by
  rw [fullYear, decide_eq_true short, Bool.not_false, Bool.true_and, if_pos rfl]

theorem fullYear_bounds :
    1000 ≤ base.fullYear y false ∧ base.fullYear y false ≤ lastYear := by
  have inside := base.inside
  rw [fullYear_two short, lastYear]
  split
  · omega
  · split <;> omega

theorem exists_fullYear : ∃ century, base.fullYear y false = century * 100 + y := by
  have inside := base.inside
  rw [fullYear_two short]
  split
  · exact ⟨base.year / 100 - 1, by omega⟩
  · split
    · exact ⟨base.year / 100 + 1, by omega⟩
    · exact ⟨base.year / 100, rfl⟩

/-- A year of two digits is leap where the year is with which it is read. -/
theorem isLeapYear_fullYear (first : 10 ≤ y) :
    isLeapYear (base.fullYear y false) = isLeapYear y := by
  obtain ⟨century, full⟩ := exists_fullYear short base
  have fourth : (century * 100 + y) % 4 = y % 4 := by omega
  have notWhole : (century * 100 + y) % 100 ≠ 0 := by omega
  have notWhole' : y % 100 ≠ 0 := by omega
  rw [full, isLeapYear, isLeapYear, fourth, bne_iff_ne.mpr notWhole, bne_iff_ne.mpr notWhole']
  rfl

end BaseYear

/-- A compact date is read alike on all days, and never as a day before the year 1000. -/
theorem exists_day?_compactText (d : Date) (base : BaseYear) :
    ∃ told : Option Date, (∀ today, day? ⟨today, base⟩ d.compactText = .ok told)
      ∧ ∀ e, told = some e → 1000 ≤ e.year := by
  by_cases early : d.year < 1000
  · rcases length_early early with ⟨six, two⟩ | odd
    · refine ⟨Date.of? (base.fullYear d.year false) d.month d.day,
        fun today => day?_six six two ⟨today, base⟩, ?_⟩
      intro e made
      obtain ⟨year, -, -⟩ := Date.of?_eq_some made
      have short : d.year < 100 :=
        (Nat.length_toDigits_le_iff (k := 2) (by decide) (by decide)).mp (Nat.le_of_eq two)
      rw [year]
      exact (BaseYear.fullYear_bounds short base).1
    · refine ⟨none, fun today => day?_alone odd ⟨today, base⟩, ?_⟩
      rintro _ ⟨⟩
  · have late := Nat.le_of_not_lt early
    refine ⟨some d, fun today => day?_compactText late ⟨today, base⟩, ?_⟩
    rintro _ ⟨⟩
    exact late

/-- The day that the compact text of a day is read as, if it is. -/
def retold? (base : BaseYear) (d : Date) : Option Date :=
  (day? ⟨Date.first, base⟩ d.compactText).toOption.join

theorem day?_eq_retold? (d : Date) (here : Standpoint) :
    day? here d.compactText = .ok (retold? here.base d) := by
  obtain ⟨told, same, -⟩ := exists_day?_compactText d here.base
  rw [retold?, same Date.first]
  exact same here.today

theorem year_of_retold? {base : BaseYear} {d e : Date} (h : retold? base d = some e) :
    1000 ≤ e.year := by
  obtain ⟨told, same, late⟩ := exists_day?_compactText d base
  rw [retold?, same] at h
  exact late e h

theorem retold?_of_year {d : Date} (year : 1000 ≤ d.year) (base : BaseYear) :
    retold? base d = some d := by
  rw [retold?, day?_compactText year]
  rfl

/-- The compact dates that can be read: those of years of four digits, and of two. -/
theorem exists_day?_iff (d : Date) (here : Standpoint) :
    (∃ e, day? here d.compactText = .ok (some e))
      ↔ 1000 ≤ d.year ∨ 10 ≤ d.year ∧ d.year < 100 := by
  have upTo : ∀ k, 0 < k → ((decimal d.year).length ≤ k ↔ d.year < 10 ^ k) :=
    fun k positive => Nat.length_toDigits_le_iff (by decide) positive
  have one := upTo 1 (by decide)
  have two := upTo 2 (by decide)
  by_cases early : d.year < 1000
  · rcases length_early early with ⟨six, length⟩ | odd
    · rw [day?_six six length]
      have twoDigits : 10 ≤ d.year ∧ d.year < 100 := by omega
      refine ⟨fun _ => .inr twoDigits, fun _ => ?_⟩
      obtain ⟨first, last⟩ := BaseYear.fullYear_bounds twoDigits.2 here.base
      have leap := BaseYear.isLeapYear_fullYear twoDigits.2 here.base twoDigits.1
      obtain ⟨-, -, firstMonth, lastMonth, firstDay, lastDay⟩ := d.isDate
      refine ⟨_, congrArg Except.ok (dif_pos ⟨by omega, last, firstMonth, lastMonth, firstDay, ?_⟩)⟩
      rw [daysInMonth_congr leap]
      exact lastDay
    · rw [day?_alone odd]
      refine ⟨fun ⟨_, absent⟩ => (nomatch absent), ?_⟩
      rw [compactText_eq, List.length_append, length_behind_year] at odd
      intro either
      omega
  · have late := Nat.le_of_not_lt early
    exact ⟨fun _ => .inl late, fun _ => ⟨d, day?_compactText late here⟩⟩

end Recurrence.DateText
