import Mathlib.Data.Nat.Digits.Defs
import Recurrence.Phrase.Numeral
import Recurrence.Proofs.Text.Caseless

/-! What a numeral is read as, by the kind of its characters. A token of what looks like digits is an
integer or an error, one of Chinese signs is always a number, and any other is a number word or
nothing. -/

namespace Recurrence

/-- The number that digits stand for by their places. -/
def placeValue (ds : List Nat) : Nat := Nat.ofDigits 10 ds.reverse

variable {t s : Text} {c : Char}

namespace Integer

/-- The digits are read by their places. -/
theorem ofDigits_eq_placeValue (ds : List Nat) : ofDigits ds = placeValue ds := by
  rw [placeValue, ofDigits, Nat.ofDigits_eq_foldr, List.foldr_reverse]
  congr
  funext n d
  rw [Nat.cast_id, Nat.mul_comm, Nat.add_comm]

theorem exists_leadingDigits? {afterDigit : Bool} (digits : ∀ c ∈ t, isDigit c = true)
    (nonempty : afterDigit = true ∨ t ≠ []) :
    ∃ ds, leadingDigits? afterDigit t = some (ds, []) ∧ ds.length = t.length := by
  induction t generalizing afterDigit with
  | nil =>
      rcases nonempty with rfl | absent
      · exact ⟨[], rfl, rfl⟩
      · exact absurd rfl absent
  | cons c r ih =>
      obtain ⟨digit, others⟩ := List.forall_mem_cons.mp digits
      obtain ⟨d, worth⟩ := Option.isSome_iff_exists.mp digit
      have behind : ∃ ds, leadingDigits? true r = some (ds, []) ∧ ds.length = r.length :=
        ih others (.inl rfl)
      obtain ⟨ds, later, length⟩ := behind
      refine ⟨d :: ds, ?_, congrArg Nat.succ length⟩
      rw [leadingDigits?, worth]
      dsimp only
      rw [later]
      rfl

theorem of_leadingDigits? {afterDigit : Bool} {ds : List Nat}
    (whole : leadingDigits? afterDigit t = some (ds, [])) :
    ds = t.filterMap digitValue? ∧ ∀ c ∈ t, isDigit c = true ∨ c = '_' := by
  induction t generalizing afterDigit ds with
  | nil =>
      rw [leadingDigits?] at whole
      split at whole
      · cases whole
        exact ⟨rfl, List.forall_mem_nil _⟩
      · cases whole
  | cons c r ih =>
      rw [leadingDigits?] at whole
      rw [List.filterMap_cons]
      split at whole
      · rename_i d worth
        obtain ⟨⟨es, rest⟩, behind, same⟩ := Option.map_eq_some_iff.mp whole
        cases same
        obtain ⟨rfl, all⟩ := ih behind
        rw [worth]
        refine ⟨rfl, List.forall_mem_cons.mpr ⟨.inl ?_, all⟩⟩
        rw [isDigit, worth]
        rfl
      · rename_i worthless
        rw [worthless]
        split at whole
        · rename_i underscore
          split at whole
          · obtain ⟨rfl, all⟩ := ih whole
            exact ⟨rfl, List.forall_mem_cons.mpr ⟨.inr underscore, all⟩⟩
          · cases whole
        · split at whole
          · cases whole
          · cases whole

variable {n : Int}

theorem isDigitLike_of_mem_signs : ∀ c ∈ ['-', '+', '_'], isDigitLike c = false := by decide +kernel

/-- What looks like digits has no sign and no blanks around it. -/
theorem bare_of_isDigitLike (like : ∀ c ∈ t, isDigitLike c = true) :
    t.trimBoth isSurrounding = t ∧ signed t = (false, t) := by
  constructor
  · apply Text.trimBoth_eq_self
    intro c member
    rw [isSurrounding, isBlank_of_isDigitLike (like c member), Bool.false_and]
  · unfold signed
    split
    · have other := isDigitLike_of_mem_signs '-' (by decide)
      rw [like '-' List.mem_cons_self] at other
      cases other
    · have other := isDigitLike_of_mem_signs '+' (by decide)
      rw [like '+' List.mem_cons_self] at other
      cases other
    · rfl

theorem isDigit_of_read (like : ∀ c ∈ t, isDigitLike c = true) (given : read t = .ok n) :
    ∀ c ∈ t, isDigit c = true := by
  obtain ⟨bare, unsigned⟩ := bare_of_isDigitLike like
  rw [read, bare, unsigned] at given
  dsimp only at given
  split at given
  · cases given
  · rename_i ds rest leading
    split at given
    · cases given
    · split at given
      · rename_i ended
        rw [List.isEmpty_iff.mp ended] at leading
        intro c member
        refine ((of_leadingDigits? leading).2 c member).resolve_right ?_
        rintro rfl
        have other := isDigitLike_of_mem_signs '_' (by decide)
        rw [like '_' member] at other
        cases other
      · cases given

/-- Digits alone are an integer unless there are too many. -/
theorem read_of_isAnyDigit (digits : ∀ c ∈ t, isDigit c = true) (nonempty : t ≠ []) :
    read t = if digitLimit < t.length then .error (.tooManyDigits t.length)
      else .ok (placeValue (t.filterMap digitValue?) : Nat) := by
  obtain ⟨bare, unsigned⟩ := bare_of_isDigitLike fun c member => isDigitLike_of_isAnyDigit (digits c member)
  obtain ⟨ds, leading, length⟩ := exists_leadingDigits? digits (.inr nonempty)
  obtain ⟨rfl, -⟩ := of_leadingDigits? leading
  rw [read, bare, unsigned, ← ofDigits_eq_placeValue]
  dsimp only
  rw [leading]
  dsimp only
  rw [length]
  rfl

/-- Of what looks like digits the decimal digits are read, up to the limit. -/
theorem read_eq_ok_iff (like : ∀ c ∈ t, isDigitLike c = true) (nonempty : t ≠ []) :
    read t = .ok n ↔ (∀ c ∈ t, isDigit c = true) ∧ t.length ≤ digitLimit
      ∧ n = (placeValue (t.filterMap digitValue?) : Nat) := by
  constructor
  · intro given
    have digits := isDigit_of_read like given
    rw [read_of_isAnyDigit digits nonempty] at given
    split at given
    · cases given
    · rename_i short
      exact ⟨digits, Nat.not_lt.mp short, (Except.ok.inj given).symm⟩
  · rintro ⟨digits, short, rfl⟩
    rw [read_of_isAnyDigit digits nonempty, if_neg (Nat.not_lt.mpr short)]

theorem exists_read_iff (like : ∀ c ∈ t, isDigitLike c = true) (nonempty : t ≠ []) :
    (∃ n, read t = .ok n) ↔ (∀ c ∈ t, isDigit c = true) ∧ t.length ≤ digitLimit := by
  simp only [read_eq_ok_iff like nonempty, exists_and_left, exists_eq, and_true]

end Integer

namespace Phrase

/-! The three kinds have no character in common. -/

theorem isPlainWord_of_mem_englishNumbers (word : s ∈ englishNumbers) : IsPlainWord s := by
  have plain : ∀ w ∈ englishNumbers, IsPlainWord w := by decide
  exact plain s word

/-- The signs of Chinese numerals. -/
def numeralSigns : Text := "零一二两三四五六七八九十".toList

theorem mem_numeralSigns (sign : isChineseNumeral c = true) : c ∈ numeralSigns := by
  rw [isChineseNumeral, Bool.or_eq_true, beq_iff_eq] at sign
  rcases sign with digit | rfl
  · unfold chineseDigit? at digit
    split at digit
    all_goals first | decide | cases digit
  · decide

/-- The signs of Chinese numerals, each a range. -/
def numeralCharacters : CaselessRanges where
  ranges := numeralSigns.map fun c => (c.toNat, c.toNat)
  caseless := by decide +kernel
  printing := by decide +kernel

theorem isChineseNumeral_holds (sign : isChineseNumeral c = true) : numeralCharacters.Holds c := by
  apply List.any_eq_true.mpr
  refine ⟨(c.toNat, c.toNat), List.mem_map_of_mem (mem_numeralSigns sign), ?_⟩
  rw [decide_eq_true (Nat.le_refl _)]
  rfl

theorem isDigitLike_of_isChineseNumeral (sign : isChineseNumeral c = true) : isDigitLike c = false := by
  have each : ∀ d ∈ numeralSigns, isDigitLike d = false := by decide +kernel
  exact each c (mem_numeralSigns sign)

theorem isBlank_of_isChineseNumeral (sign : isChineseNumeral c = true) : isBlank c = false :=
  (isChineseNumeral_holds sign).isBlank_eq_false

/-- A letter of a number word, in either case. -/
def IsWordLetter (c : Char) : Prop := 97 ≤ c.toLower.toNat ∧ c.toLower.toNat ≤ 122

variable {k : CaselessRanges}

theorem not_isWordLetter_of_holds (held : k.Holds c) : ¬ IsWordLetter c := by
  obtain ⟨z, -, within, place, -⟩ := held.exists_range
  rw [IsWordLetter, toLower_eq_self (by omega)]
  omega

theorem letters_of_listed {i : Nat} (listed : englishNumbers[i]? = some (t.map Char.toLower)) :
    t ≠ [] ∧ ∀ c ∈ t, IsWordLetter c := by
  have filled : ∀ w ∈ englishNumbers, w ≠ [] := by decide
  have member := List.mem_of_getElem? listed
  have plain := isPlainWord_of_mem_englishNumbers member
  constructor
  · rintro rfl
    exact filled _ member rfl
  · intro c inside
    have letter := plain c.toLower (List.mem_map_of_mem inside)
    exact ⟨letter.1, letter.2.1⟩

theorem not_listed_of_holds (held : ∀ c ∈ t, k.Holds c) (i : Nat) :
    englishNumbers[i]? ≠ some (t.map Char.toLower) := by
  intro listed
  obtain ⟨nonempty, letters⟩ := letters_of_listed listed
  obtain ⟨c, member⟩ := List.exists_mem_of_ne_nil t nonempty
  exact not_isWordLetter_of_holds (held c member) (letters c member)

theorem isChineseNumeral_of_digit (digit : (chineseDigit? c).isSome = true) : isChineseNumeral c = true := by
  rw [isChineseNumeral, digit, Bool.true_or]

theorem chineseDigit?_tenSign : chineseDigit? tenSign = none := rfl

theorem isChineseNumeral_tenSign : isChineseNumeral tenSign = true := rfl

theorem isDigit_of_ne_tenSign (sign : isChineseNumeral c = true) (ne : c ≠ tenSign) :
    (chineseDigit? c).isSome = true := by
  rw [isChineseNumeral, Bool.or_eq_true, beq_iff_eq] at sign
  exact sign.resolve_right ne

variable {n : Nat}

/-! What the reading of a token comes to, by its kind. -/

theorem number?_of_isDigitLike (like : ∀ c ∈ t.strip, isDigitLike c = true) (nonempty : t.strip ≠ []) :
    number? t = (Integer.read t.strip).map some := by
  have small : t.strip.lower = t.strip :=
    CaselessRanges.lower_eq_self fun c member => isDigitLike_iff.mp (like c member)
  have all : t.strip.all isDigitLike = true := List.all_eq_true.mpr like
  have present : t.strip.isEmpty = false := List.isEmpty_eq_false_iff.mpr nonempty
  simp only [number?, small, all, present]
  rfl

theorem englishNumber?_eq_some_iff : englishNumber? t = some n ↔
    ∃ i, englishNumbers[i]? = some t ∧ n = i + 1 := by
  have once : ∀ i (h : i < englishNumbers.length),
      englishNumbers.findIdx? (· == englishNumbers[i]) = some i := by decide
  rw [englishNumber?, Option.map_eq_some_iff]
  constructor
  · rintro ⟨i, found, rfl⟩
    obtain ⟨bound, same, -⟩ := List.findIdx?_eq_some_iff_getElem.mp found
    exact ⟨i, List.getElem?_eq_some_iff.mpr ⟨bound, beq_iff_eq.mp same⟩, rfl⟩
  · rintro ⟨i, listed, rfl⟩
    obtain ⟨bound, rfl⟩ := List.getElem?_eq_some_iff.mp listed
    exact ⟨i, once i bound, rfl⟩

theorem englishNumber?_lower_eq_some_iff : englishNumber? t.lower = some n ↔
    ∃ i, englishNumbers[i]? = some (t.map Char.toLower) ∧ n = i + 1 := by
  rw [englishNumber?_eq_some_iff]
  constructor
  · rintro ⟨i, listed, rfl⟩
    have plain := isPlainWord_of_mem_englishNumbers (List.mem_of_getElem? listed)
    rw [(lower_eq_iff plain).mp rfl]
    exact ⟨i, listed, rfl⟩
  · rintro ⟨i, listed, rfl⟩
    have plain := isPlainWord_of_mem_englishNumbers (List.mem_of_getElem? listed)
    rw [(lower_eq_iff plain).mpr rfl]
    exact ⟨i, listed, rfl⟩

theorem number?_of_isChineseNumeral (signs : ∀ c ∈ t.strip, isChineseNumeral c = true)
    (nonempty : t.strip ≠ []) :
    number? t = .ok ((chineseNumber? t.strip).map fun n => (n : Int)) := by
  have held : ∀ c ∈ t.strip, numeralCharacters.Holds c :=
    fun c member => isChineseNumeral_holds (signs c member)
  have small : t.strip.lower = t.strip := CaselessRanges.lower_eq_self held
  have noWord : englishNumber? t.strip.lower = none := by
    apply Option.eq_none_iff_forall_ne_some.mpr
    intro n worth
    obtain ⟨i, listed, -⟩ := englishNumber?_lower_eq_some_iff.mp worth
    exact not_listed_of_holds held i listed
  obtain ⟨c, member⟩ := List.exists_mem_of_ne_nil _ nonempty
  have other : t.strip.all isDigitLike = false :=
    List.all_eq_false.mpr ⟨c, member, by rw [isDigitLike_of_isChineseNumeral (signs c member)]; nofun⟩
  rw [small] at noWord
  simp only [number?, small, other, noWord, Bool.and_false, Option.none_or]
  rfl

theorem chineseNumber?_of_isChineseNumeral (signs : ∀ c ∈ t, isChineseNumeral c = true)
    (nonempty : t ≠ []) : chineseNumber? t = some (match t.cut? tenSign with
      | none => placeValue (t.filterMap chineseDigit?)
      | some (tens, ones) => sideOfTen 1 1 tens * 10 + sideOfTen 0 0 ones) := by
  rw [chineseNumber?, List.all_eq_true.mpr signs, List.isEmpty_eq_false_iff.mpr nonempty,
    if_neg (by decide)]
  cases t.cut? tenSign with
  | none => exact congrArg some (Integer.ofDigits_eq_placeValue _)
  | some sides => rfl

/-- Where the characters are neither all digits nor all Chinese signs only a word is read. -/
theorem number?_of_other (noDigits : ¬ (t.strip ≠ [] ∧ ∀ c ∈ t.strip, isDigitLike c = true))
    (noSigns : ¬ (t.strip ≠ [] ∧ ∀ c ∈ t.strip, isChineseNumeral c = true)) :
    number? t = .ok ((englishNumber? t.strip.lower).map fun n => (n : Int)) := by
  have notLike : (!t.strip.lower.isEmpty && t.strip.lower.all isDigitLike) = false := by
    by_contra like
    rw [Bool.not_eq_false, Bool.and_eq_true, Bool.not_eq_true', List.isEmpty_eq_false_iff,
      List.all_eq_true] at like
    have small : t.strip.lower = t.strip :=
      CaselessRanges.lowerFrom_eq_self fun c member => isDigitLike_iff.mp (like.2 c member)
    rw [small] at like
    exact noDigits like
  have noNumeral : chineseNumber? t.strip.lower = none := by
    rw [chineseNumber?]
    apply if_pos
    by_contra signs
    rw [Bool.not_eq_true, Bool.or_eq_false_iff, Bool.not_eq_false', List.isEmpty_eq_false_iff,
      List.all_eq_true] at signs
    have small : t.strip.lower = t.strip :=
      CaselessRanges.lowerFrom_eq_self fun c member => isChineseNumeral_holds (signs.2 c member)
    rw [small] at signs
    exact noSigns signs
  simp only [number?, notLike, noNumeral, Option.or_none]
  rfl

end Phrase

end Recurrence
