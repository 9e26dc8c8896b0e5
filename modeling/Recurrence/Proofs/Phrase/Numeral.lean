import Recurrence.Phrase.Basic
import Recurrence.Proofs.Pattern.Captured
import Recurrence.Proofs.Phrase.Token

/-! Which numerals of a phrase have a worth: all that the pattern for numerals takes, but for those
written with a letter that only looks like one of ASCII, and for digits beyond the limit. -/

namespace Recurrence

variable {t s : Text} {c : Char}

namespace Phrase

theorem number?_of_isDigit (digits : ∀ c ∈ t, isDigit c = true) (nonempty : t ≠ []) :
    number? t = (Integer.read t).map some := by
  have bare : t.strip = t := Text.strip_eq_self fun c member => isBlank_of_isAnyDigit (digits c member)
  have reading : number? t = (Integer.read t.strip).map some := by
    apply number?_of_isDigitLike
    · rw [bare]
      exact fun c member => isDigitLike_of_isAnyDigit (digits c member)
    · rw [bare]
      exact nonempty
  rwa [bare] at reading

theorem exists_number?_of_isChineseNumeral (signs : ∀ c ∈ t, isChineseNumeral c = true)
    (nonempty : t ≠ []) : ∃ n, number? t = .ok (some n) := by
  have bare : t.strip = t :=
    Text.strip_eq_self fun c member => isBlank_of_isChineseNumeral (signs c member)
  have reading : number? t = .ok ((chineseNumber? t.strip).map fun n => (n : Int)) := by
    apply number?_of_isChineseNumeral
    · rwa [bare]
    · rwa [bare]
  rw [bare, chineseNumber?_of_isChineseNumeral signs nonempty] at reading
  exact ⟨_, reading⟩

/-- What holds one of the marks is no numeral at all. -/
theorem number?_of_mark (marked : ∃ d ∈ t.strip.lower, d ∈ marks) : number? t = .ok none := by
  have strange : ∀ d ∈ marks, isDigitLike d = false ∧ isChineseNumeral d = false := by
    decide +kernel
  have noWord : englishNumber? t.strip.lower = none := by
    rw [englishNumber?, List.findIdx?_eq_none_iff.mpr]
    · rfl
    · intro w word
      exact beq_false_of_ne (ne_of_mark (isPlainWord_of_mem_englishNumbers word) marked)
  obtain ⟨d, member, mark⟩ := marked
  have noDigits : t.strip.lower.all isDigitLike = false :=
    List.all_eq_false.mpr ⟨d, member, Bool.eq_false_iff.mp (strange d mark).1⟩
  have noSigns : t.strip.lower.all isChineseNumeral = false :=
    List.all_eq_false.mpr ⟨d, member, Bool.eq_false_iff.mp (strange d mark).2⟩
  have noNumeral : chineseNumber? t.strip.lower = none := by
    rw [chineseNumber?, noSigns, Bool.not_false, Bool.or_true, if_pos rfl]
  simp only [number?, noDigits, Bool.and_false, Bool.false_eq_true, if_false, noWord, noNumeral]
  rfl

/-- The number words in any case. -/
theorem exists_number?_of_word (word : s ∈ englishNumbers) (same : Pattern.SameWord s t) :
    (∃ n, number? t = .ok (some n)) ↔ ¬ ∃ c ∈ t, c ∈ lookalikes := by
  have plain := isPlainWord_of_mem_englishNumbers word
  have bare := strip_of_sameWord plain same
  constructor
  · rintro ⟨n, given⟩ odd
    have marked := exists_mark_of_sameWord plain same odd
    rw [number?_of_mark (bare.symm ▸ marked)] at given
    cases given
  · intro pure
    have small := lower_of_sameWord plain same fun c member odd => pure ⟨c, member, odd⟩
    have known : ∀ w ∈ englishNumbers,
        w.all isDigitLike = false ∧ (englishNumber? w).isSome = true := by decide +kernel
    obtain ⟨noDigits, some⟩ := known s word
    obtain ⟨n, worth⟩ := Option.isSome_iff_exists.mp some
    simp only [number?, bare, small, noDigits, Bool.and_false, Bool.false_eq_true, if_false, worth]
    exact ⟨n, rfl⟩

/-- A text of a phrase that is not understood although a pattern takes it: a letter in it only
looks like one of ASCII, or it has more digits than are read. -/
def IsUnreadable (t : Text) : Prop :=
  (∃ c ∈ t, c ∈ lookalikes) ∨ digitLimit < t.length ∧ ∀ c ∈ t, isDigit c = true

theorem not_mem_lookalikes_of_isDigit (digit : isDigit c = true) : c ∉ lookalikes := by
  have others : ∀ d ∈ lookalikes, isDigit d = false := by decide +kernel
  exact fun member => absurd digit (others c member ▸ Bool.false_ne_true)

theorem isUnreadable_iff_of_isDigit (digits : ∀ c ∈ t, isDigit c = true) :
    IsUnreadable t ↔ digitLimit < t.length := by
  constructor
  · rintro (⟨c, member, odd⟩ | ⟨long, -⟩)
    · exact absurd odd (not_mem_lookalikes_of_isDigit (digits c member))
    · exact long
  · exact fun long => .inr ⟨long, digits⟩

theorem isUnreadable_iff_of_short (short : t.length ≤ digitLimit) :
    IsUnreadable t ↔ ∃ c ∈ t, c ∈ lookalikes := by
  constructor
  · rintro (odd | ⟨long, -⟩)
    · exact odd
    · exact absurd long (Nat.not_lt.mpr short)
  · exact .inl

theorem not_isUnreadable_of_isChineseNumeral (signs : ∀ c ∈ t, isChineseNumeral c = true)
    (nonempty : t ≠ []) : ¬ IsUnreadable t := by
  have others : ∀ d ∈ numeralSigns, d ∉ lookalikes ∧ isDigit d = false := by decide +kernel
  have known := fun c member => others c (mem_numeralSigns (signs c member))
  rintro (⟨c, member, odd⟩ | ⟨-, digits⟩)
  · exact (known c member).1 odd
  · obtain ⟨c, r, rfl⟩ := List.exists_cons_of_ne_nil nonempty
    have digit := digits c List.mem_cons_self
    rw [(known c List.mem_cons_self).2] at digit
    cases digit

/-- The forms of numerals in phrases. -/
def numeralForms : Pattern :=
  Pattern.choice (Pattern.oneOrMore isDigit :: Pattern.oneOrMore isChineseNumeral ::
    englishNumbers.map Pattern.literal)

theorem admits_numeralForms : numeralForms.Admits t ↔
    (t ≠ [] ∧ ∀ c ∈ t, isDigit c = true) ∨ (t ≠ [] ∧ ∀ c ∈ t, isChineseNumeral c = true) ∨
      ∃ w ∈ englishNumbers, Pattern.SameWord w t := by
  rw [numeralForms, Pattern.admits_choice (List.cons_ne_nil _ _), List.exists_mem_cons_iff,
    List.exists_mem_cons_iff, Pattern.admits_oneOrMore, Pattern.admits_oneOrMore]
  simp only [List.mem_map, exists_exists_and_eq_and, Pattern.admits_literal]

/-- A numeral of a phrase has a worth exactly if it is readable. -/
theorem exists_number?_iff (taken : numeralForms.Admits t) :
    (∃ n, number? t = .ok (some n)) ↔ ¬ IsUnreadable t := by
  rcases admits_numeralForms.mp taken with ⟨nonempty, digits⟩ | ⟨nonempty, signs⟩ | ⟨w, word, same⟩
  · rw [number?_of_isDigit digits nonempty, isUnreadable_iff_of_isDigit digits,
      Integer.read_of_isAnyDigit digits nonempty]
    split
    · rename_i long
      constructor
      · rintro ⟨n, given⟩
        cases given
      · exact fun short => absurd long short
    · rename_i short
      exact ⟨fun _ => short, fun _ => ⟨_, rfl⟩⟩
  · exact iff_of_true (exists_number?_of_isChineseNumeral signs nonempty)
      (not_isUnreadable_of_isChineseNumeral signs nonempty)
  · have lengths : ∀ w ∈ englishNumbers, w.length ≤ digitLimit := by decide
    rw [exists_number?_of_word word same,
      isUnreadable_iff_of_short (same.length_eq ▸ lengths w word)]

end Phrase

end Recurrence
