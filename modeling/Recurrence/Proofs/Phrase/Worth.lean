import Recurrence.Proofs.Fault
import Recurrence.Proofs.Phrase.Token

/-! Which tokens are read right. A numeral denotes one number, and any other token none; the reading
agrees with this but for two kinds of tokens that denote nothing, of which one is an error and the
other is read as a number. -/

namespace Recurrence

variable {t : Text} {c : Char}

namespace Phrase

/-- One side of the sign for ten: a digit, or nothing for the worth of a missing one. -/
inductive Side (absent : Nat) : Text → Nat → Prop
  | missing : Side absent [] absent
  | digit {c : Char} {d : Nat} (worth : chineseDigit? c = some d) : Side absent [c] d

/-- The number a numeral stands for. Nothing else is a numeral. -/
inductive Denotes : Text → Nat → Prop
  /-- Decimal digits of any script, as many as integers may have. -/
  | decimal {t : Text} (nonempty : t ≠ []) (digits : ∀ c ∈ t, isDigit c = true)
      (short : t.length ≤ digitLimit) : Denotes t (placeValue (t.filterMap digitValue?))
  /-- An English number word, each letter in either case. -/
  | word {t : Text} {i : Nat} (listed : englishNumbers[i]? = some (t.map Char.toLower)) :
      Denotes t (i + 1)
  /-- Chinese digits by their places. -/
  | places {t : Text} (nonempty : t ≠ []) (digits : ∀ c ∈ t, (chineseDigit? c).isSome = true) :
      Denotes t (placeValue (t.filterMap chineseDigit?))
  /-- Tens and ones around the sign for ten. -/
  | aroundTen {a b : Text} {tens ones : Nat} (front : Side 1 a tens) (behind : Side 0 b ones) :
      Denotes (a ++ tenSign :: b) (10 * tens + ones)

/-- Digits that are more than are read, or characters that only stand for digits among them. -/
def IsRefused (t : Text) : Prop :=
  t ≠ [] ∧ (∀ c ∈ t, isDigitLike c = true) ∧ ((∃ c ∈ t, isDigit c = false) ∨ digitLimit < t.length)

/-- Chinese numerals with more than a digit on one side of the first sign for ten. -/
def IsCrowded (t : Text) : Prop :=
  ∃ a b, t = a ++ tenSign :: b ∧ (∀ c ∈ t, isChineseNumeral c = true) ∧ tenSign ∉ a
    ∧ (1 < a.length ∨ 1 < b.length ∨ b = [tenSign])

/-- The token is read as the number it denotes, or as none where it denotes none. -/
def IsReadRight (t : Text) : Prop :=
  ∃ r : Option Nat, number? t = .ok (r.map fun n => (n : Int)) ∧ ∀ n, r = some n ↔ Denotes t.strip n

theorem Side.isDigit {absent d : Nat} (side : Side absent t d) :
    ∀ c ∈ t, (chineseDigit? c).isSome = true := by
  cases side with
  | missing => exact nofun
  | digit worth =>
      intro c member
      rw [List.mem_singleton.mp member, worth]
      rfl

/-! What tokens of each kind denote. -/

variable {n : Nat}

theorem denotes_iff_of_isDigitLike (like : ∀ c ∈ t, isDigitLike c = true) (nonempty : t ≠ []) :
    Denotes t n ↔ (∀ c ∈ t, isDigit c = true) ∧ t.length ≤ digitLimit
      ∧ n = placeValue (t.filterMap digitValue?) := by
  constructor
  · intro denotes
    cases denotes with
    | decimal _ digits short => exact ⟨digits, short, rfl⟩
    | word listed =>
        exact absurd listed (not_listed_of_holds (fun c member => isDigitLike_iff.mp (like c member)) _)
    | places _ digits =>
        obtain ⟨c, member⟩ := List.exists_mem_of_ne_nil t nonempty
        have other := isDigitLike_of_isChineseNumeral (isChineseNumeral_of_digit (digits c member))
        rw [like c member] at other
        cases other
    | aroundTen _ _ =>
        have other := isDigitLike_of_isChineseNumeral isChineseNumeral_tenSign
        rw [like tenSign (List.mem_append_right _ List.mem_cons_self)] at other
        cases other
  · rintro ⟨digits, short, rfl⟩
    exact .decimal nonempty digits short

theorem denotes_iff_of_isChineseNumeral (signs : ∀ c ∈ t, isChineseNumeral c = true) (nonempty : t ≠ []) :
    Denotes t n ↔ ((∀ c ∈ t, (chineseDigit? c).isSome = true) ∧ n = placeValue (t.filterMap chineseDigit?))
      ∨ ∃ a b tens ones, t = a ++ tenSign :: b ∧ Side 1 a tens ∧ Side 0 b ones
        ∧ n = 10 * tens + ones := by
  constructor
  · intro denotes
    cases denotes with
    | decimal _ digits _ =>
        obtain ⟨c, member⟩ := List.exists_mem_of_ne_nil t nonempty
        have other := isDigitLike_of_isChineseNumeral (signs c member)
        rw [isDigitLike, digits c member] at other
        cases other
    | word listed =>
        exact absurd listed
          (not_listed_of_holds (fun c member => isChineseNumeral_holds (signs c member)) _)
    | places _ digits => exact .inl ⟨digits, rfl⟩
    | aroundTen front behind => exact .inr ⟨_, _, _, _, rfl, front, behind, rfl⟩
  · rintro (⟨digits, rfl⟩ | ⟨a, b, tens, ones, rfl, front, behind, rfl⟩)
    · exact .places nonempty digits
    · exact .aroundTen front behind

theorem denotes_iff_of_other (noDigits : ¬ (t ≠ [] ∧ ∀ c ∈ t, isDigitLike c = true))
    (noSigns : ¬ (t ≠ [] ∧ ∀ c ∈ t, isChineseNumeral c = true)) :
    Denotes t n ↔ ∃ i, englishNumbers[i]? = some (t.map Char.toLower) ∧ n = i + 1 := by
  constructor
  · intro denotes
    cases denotes with
    | decimal nonempty digits _ =>
        refine absurd ⟨nonempty, fun c member => ?_⟩ noDigits
        rw [isDigitLike, digits c member, Bool.true_or]
    | @word _ i listed => exact ⟨i, listed, rfl⟩
    | places nonempty digits =>
        exact absurd ⟨nonempty, fun c member => isChineseNumeral_of_digit (digits c member)⟩ noSigns
    | aroundTen front behind =>
        refine absurd ⟨List.append_ne_nil_of_right_ne_nil _ (List.cons_ne_nil _ _), fun c member => ?_⟩ noSigns
        rcases List.mem_append.mp member with inFront | later
        · exact isChineseNumeral_of_digit (front.isDigit c inFront)
        · rcases List.mem_cons.mp later with rfl | later
          · exact isChineseNumeral_tenSign
          · exact isChineseNumeral_of_digit (behind.isDigit c later)
  · rintro ⟨i, listed, rfl⟩
    exact .word listed

theorem isReadRight_of_isDigitLike (like : ∀ c ∈ t.strip, isDigitLike c = true)
    (nonempty : t.strip ≠ []) : IsReadRight t ↔ ∃ n, Integer.read t.strip = .ok n := by
  rw [IsReadRight, number?_of_isDigitLike like nonempty]
  constructor
  · rintro ⟨r, given, -⟩
    obtain ⟨n, read, -⟩ := map_eq_ok.mp given
    exact ⟨n, read⟩
  · rintro ⟨n, read⟩
    obtain ⟨digits, short, rfl⟩ := (Integer.read_eq_ok_iff like nonempty).mp read
    refine ⟨some (placeValue (t.strip.filterMap digitValue?)), by rw [read]; rfl, fun m => ?_⟩
    rw [denotes_iff_of_isDigitLike like nonempty, Option.some_inj, eq_comm]
    exact ⟨fun same => ⟨digits, short, same⟩, fun denoted => denoted.2.2⟩

/-! The sides of the first sign for ten. -/

variable {a b : Text} {absent other d : Nat}

theorem Side.eq_sideOfTen (side : Side absent t d) : d = sideOfTen absent other t := by
  cases side with
  | missing => rfl
  | digit worth =>
      rw [sideOfTen, worth]
      rfl

theorem Side.length_le (side : Side absent t d) : t.length ≤ 1 := by
  cases side with
  | missing => exact Nat.zero_le 1
  | digit _ => exact Nat.le_refl 1

theorem Side.tenSign_notMem (side : Side absent t d) : tenSign ∉ t := by
  intro member
  have digit := side.isDigit tenSign member
  rw [chineseDigit?_tenSign] at digit
  cases digit

theorem side_of_length_le (signs : ∀ c ∈ t, isChineseNumeral c = true) (free : tenSign ∉ t)
    (short : t.length ≤ 1) : Side absent t (sideOfTen absent other t) := by
  match t, short with
  | [], _ => exact .missing
  | [c], _ =>
      have ne : c ≠ tenSign := fun same => free (same ▸ List.mem_cons_self)
      obtain ⟨d, worth⟩ :=
        Option.isSome_iff_exists.mp (isDigit_of_ne_tenSign (signs c List.mem_cons_self) ne)
      rw [sideOfTen, worth]
      exact .digit worth

/-- Around the first sign for ten a numeral is cut in one way. -/
theorem denotes_append_tenSign (signs : ∀ c ∈ a ++ tenSign :: b, isChineseNumeral c = true)
    (first : tenSign ∉ a) : Denotes (a ++ tenSign :: b) n ↔
      ∃ tens ones, Side 1 a tens ∧ Side 0 b ones ∧ n = 10 * tens + ones := by
  have inside : tenSign ∈ a ++ tenSign :: b := List.mem_append_right a List.mem_cons_self
  rw [denotes_iff_of_isChineseNumeral signs (List.ne_nil_of_mem inside)]
  constructor
  · rintro (⟨digits, -⟩ | ⟨a', b', tens, ones, same, front, behind, worth⟩)
    · have digit := digits tenSign inside
      rw [chineseDigit?_tenSign] at digit
      cases digit
    · obtain ⟨rfl, rfl⟩ := Text.eq_of_append_cons first front.tenSign_notMem same
      exact ⟨tens, ones, front, behind, worth⟩
  · rintro ⟨tens, ones, front, behind, worth⟩
    exact .inr ⟨a, b, tens, ones, rfl, front, behind, worth⟩

theorem isCrowded_append_tenSign (signs : ∀ c ∈ a ++ tenSign :: b, isChineseNumeral c = true)
    (first : tenSign ∉ a) :
    IsCrowded (a ++ tenSign :: b) ↔ ¬ (a.length ≤ 1 ∧ b.length ≤ 1 ∧ tenSign ∉ b) := by
  constructor
  · rintro ⟨a', b', same, -, first', crowded⟩
    obtain ⟨rfl, rfl⟩ := Text.eq_of_append_cons first first' same
    rintro ⟨shortFront, shortBehind, free⟩
    rcases crowded with long | long | rfl
    · omega
    · omega
    · exact free List.mem_cons_self
  · intro crowded
    refine ⟨a, b, rfl, signs, first, ?_⟩
    by_contra roomy
    push Not at roomy
    obtain ⟨shortFront, shortBehind, other⟩ := roomy
    refine crowded ⟨shortFront, shortBehind, fun member => ?_⟩
    match b, shortBehind, member with
    | [c], _, member => exact other (by rw [List.mem_singleton.mp member])

theorem denotes_of_roomy (signs : ∀ c ∈ a ++ tenSign :: b, isChineseNumeral c = true)
    (first : tenSign ∉ a) (roomy : ¬ IsCrowded (a ++ tenSign :: b)) :
    Denotes (a ++ tenSign :: b) n ↔ sideOfTen 1 1 a * 10 + sideOfTen 0 0 b = n := by
  rw [isCrowded_append_tenSign signs first, not_not] at roomy
  obtain ⟨shortFront, shortBehind, free⟩ := roomy
  rw [denotes_append_tenSign signs first]
  constructor
  · rintro ⟨tens, ones, front, behind, rfl⟩
    rw [front.eq_sideOfTen, behind.eq_sideOfTen, Nat.mul_comm]
  · rintro rfl
    have front : Side 1 a (sideOfTen 1 1 a) :=
      side_of_length_le (fun c member => signs c (List.mem_append_left _ member)) first shortFront
    have behind : Side 0 b (sideOfTen 0 0 b) :=
      side_of_length_le
        (fun c member => signs c (List.mem_append_right _ (List.mem_cons_of_mem _ member))) free shortBehind
    exact ⟨_, _, front, behind, by omega⟩

theorem not_denotes_of_isCrowded (crowded : IsCrowded t) : ¬ Denotes t n := by
  obtain ⟨a, b, rfl, signs, first, -⟩ := id crowded
  rw [denotes_append_tenSign signs first]
  rintro ⟨tens, ones, front, behind, -⟩
  exact (isCrowded_append_tenSign signs first).mp crowded
    ⟨front.length_le, behind.length_le, behind.tenSign_notMem⟩

/-- Numerals without the sign for ten are Chinese digits by their places. -/
theorem denotes_of_free (signs : ∀ c ∈ t, isChineseNumeral c = true) (nonempty : t ≠ [])
    (free : tenSign ∉ t) : Denotes t n ↔ placeValue (t.filterMap chineseDigit?) = n := by
  rw [denotes_iff_of_isChineseNumeral signs nonempty]
  constructor
  · rintro (⟨-, rfl⟩ | ⟨a, b, _, _, rfl, _⟩)
    · rfl
    · exact absurd (List.mem_append_right a List.mem_cons_self) free
  · rintro rfl
    refine .inl ⟨fun c member => isDigit_of_ne_tenSign (signs c member) ?_, rfl⟩
    rintro rfl
    exact free member

theorem isReadRight_of_isChineseNumeral (signs : ∀ c ∈ t.strip, isChineseNumeral c = true)
    (nonempty : t.strip ≠ []) : IsReadRight t ↔ ¬ IsCrowded t.strip := by
  have reading := number?_of_isChineseNumeral signs nonempty
  rw [chineseNumber?_of_isChineseNumeral signs nonempty] at reading
  constructor
  · rintro ⟨r, given, right⟩ crowded
    rw [reading] at given
    cases r with
    | none => cases given
    | some n => exact not_denotes_of_isCrowded crowded ((right n).mp rfl)
  · intro roomy
    refine ⟨_, reading, fun n => ?_⟩
    rw [Option.some_inj]
    by_cases inside : tenSign ∈ t.strip
    · obtain ⟨a, b, whole, first⟩ := List.eq_append_cons_of_mem inside
      rw [whole] at signs roomy ⊢
      rw [Text.cut?_append b first, denotes_of_roomy signs first roomy]
    · rw [Text.cut?_eq_none inside, denotes_of_free signs nonempty inside]

theorem isReadRight_of_other (noDigits : ¬ (t.strip ≠ [] ∧ ∀ c ∈ t.strip, isDigitLike c = true))
    (noSigns : ¬ (t.strip ≠ [] ∧ ∀ c ∈ t.strip, isChineseNumeral c = true)) : IsReadRight t := by
  refine ⟨_, number?_of_other noDigits noSigns, fun n => ?_⟩
  rw [denotes_iff_of_other noDigits noSigns, englishNumber?_lower_eq_some_iff]

/-! The whole. -/

theorem isRefused_iff (like : ∀ c ∈ t, isDigitLike c = true) (nonempty : t ≠ []) :
    IsRefused t ↔ ¬ ∃ n, Integer.read t = .ok n := by
  rw [Integer.exists_read_iff like nonempty, not_and_or, Nat.not_le, not_forall]
  constructor
  · rintro ⟨-, -, ⟨c, member, other⟩ | long⟩
    · exact .inl ⟨c, fun digits => by rw [digits member] at other; cases other⟩
    · exact .inr long
  · rintro (⟨c, other⟩ | long)
    · rw [Classical.not_imp, Bool.not_eq_true] at other
      exact ⟨nonempty, like, .inl ⟨c, other⟩⟩
    · exact ⟨nonempty, like, .inr long⟩

theorem not_isCrowded_of_isDigitLike (like : ∀ c ∈ t, isDigitLike c = true) : ¬ IsCrowded t := by
  rintro ⟨a, b, rfl, -, -, -⟩
  have other := isDigitLike_of_isChineseNumeral isChineseNumeral_tenSign
  rw [like tenSign (List.mem_append_right a List.mem_cons_self)] at other
  cases other

theorem not_isRefused_of_isChineseNumeral (signs : ∀ c ∈ t, isChineseNumeral c = true) : ¬ IsRefused t := by
  rintro ⟨nonempty, like, -⟩
  obtain ⟨c, member⟩ := List.exists_mem_of_ne_nil t nonempty
  have other := isDigitLike_of_isChineseNumeral (signs c member)
  rw [like c member] at other
  cases other

theorem IsCrowded.signs (crowded : IsCrowded t) : t ≠ [] ∧ ∀ c ∈ t, isChineseNumeral c = true := by
  obtain ⟨a, b, rfl, signs, -⟩ := crowded
  exact ⟨List.append_ne_nil_of_right_ne_nil a (List.cons_ne_nil _ b), signs⟩

/-- A token is read as the number it denotes, or as none where it denotes none, but for two kinds that
denote none: what looks like digits and is no integer is an error, and Chinese numerals with too much
on a side of the sign for ten are numbers all the same. -/
theorem isReadRight_iff (t : Text) :
    (IsReadRight t ↔ ¬ (IsRefused t.strip ∨ IsCrowded t.strip))
      ∧ (IsRefused t.strip → Fails (number? t) ∧ ∀ m, ¬ Denotes t.strip m)
      ∧ (IsCrowded t.strip → ∃ n, number? t = .ok (some n) ∧ ∀ m, ¬ Denotes t.strip m) := by
  refine ⟨?_, ?_, ?_⟩
  · by_cases digits : t.strip ≠ [] ∧ ∀ c ∈ t.strip, isDigitLike c = true
    · obtain ⟨nonempty, like⟩ := digits
      rw [isReadRight_of_isDigitLike like nonempty, isRefused_iff like nonempty,
        or_iff_left (not_isCrowded_of_isDigitLike like), not_not]
    · by_cases numeral : t.strip ≠ [] ∧ ∀ c ∈ t.strip, isChineseNumeral c = true
      · obtain ⟨nonempty, signs⟩ := numeral
        rw [isReadRight_of_isChineseNumeral signs nonempty,
          or_iff_right (not_isRefused_of_isChineseNumeral signs)]
      · apply iff_of_true (isReadRight_of_other digits numeral)
        rintro (refused | crowded)
        · exact digits ⟨refused.1, refused.2.1⟩
        · exact numeral crowded.signs
  · rintro refused
    obtain ⟨nonempty, like, -⟩ := id refused
    have unread := (isRefused_iff like nonempty).mp refused
    constructor
    · rw [number?_of_isDigitLike like nonempty, fails_map]
      cases given : Integer.read t.strip with
      | error fault => exact ⟨fault, rfl⟩
      | ok n => exact absurd ⟨n, given⟩ unread
    · intro m denotes
      obtain ⟨digits, short, -⟩ := (denotes_iff_of_isDigitLike like nonempty).mp denotes
      exact unread ((Integer.exists_read_iff like nonempty).mpr ⟨digits, short⟩)
  · intro crowded
    obtain ⟨nonempty, signs⟩ := crowded.signs
    have reading := number?_of_isChineseNumeral signs nonempty
    rw [chineseNumber?_of_isChineseNumeral signs nonempty] at reading
    exact ⟨_, reading, fun m => not_denotes_of_isCrowded crowded⟩

/-- The square sign is refused, two digits before the sign for ten are too many, and a digit on
either side of it, with blanks around the token, is read right. -/
theorem isReadRight_iff_signs :
    (IsRefused (Text.strip "²".toList) ∧ ¬ IsReadRight "²".toList
        ∧ Fails (number? "²".toList) ∧ ∀ m, ¬ Denotes (Text.strip "²".toList) m)
      ∧ (IsCrowded (Text.strip "二二十".toList) ∧ ¬ IsReadRight "二二十".toList
        ∧ ∃ n, number? "二二十".toList = .ok (some n) ∧ ∀ m, ¬ Denotes (Text.strip "二二十".toList) m)
      ∧ IsReadRight " 二十三 ".toList ∧ Denotes (Text.strip " 二十三 ".toList) 23 := by
  have refused : IsRefused (Text.strip "²".toList) := by
    have bare : Text.strip "²".toList = ['²'] := by decide +kernel
    rw [bare]
    exact ⟨by decide, by decide +kernel, .inl ⟨'²', List.mem_cons_self, by decide +kernel⟩⟩
  have crowded : IsCrowded (Text.strip "二二十".toList) := by
    have bare : Text.strip "二二十".toList = ['二', '二'] ++ tenSign :: [] := by decide +kernel
    rw [bare]
    exact ⟨_, _, rfl, by decide, by decide, .inl (by decide)⟩
  have bare : Text.strip " 二十三 ".toList = ['二'] ++ tenSign :: ['三'] := by decide +kernel
  have signs : ∀ c ∈ ['二'] ++ tenSign :: ['三'], isChineseNumeral c = true := by decide
  have right : ¬ (IsRefused (Text.strip " 二十三 ".toList) ∨ IsCrowded (Text.strip " 二十三 ".toList)) := by
    rw [bare, isCrowded_append_tenSign signs (by decide)]
    rintro (strange | long)
    · exact not_isRefused_of_isChineseNumeral signs strange
    · exact long (by decide)
  refine ⟨⟨refused, ?_, (isReadRight_iff _).2.1 refused⟩, ⟨crowded, ?_, (isReadRight_iff _).2.2 crowded⟩,
    (isReadRight_iff _).1.mpr right, ?_⟩
  · exact fun right => (isReadRight_iff _).1.mp right (.inl refused)
  · exact fun right => (isReadRight_iff _).1.mp right (.inr crowded)
  · have two : Side 1 ['二'] 2 := .digit rfl
    have three : Side 0 ['三'] 3 := .digit rfl
    rw [bare]
    exact .aroundTen two three

end Phrase

end Recurrence
