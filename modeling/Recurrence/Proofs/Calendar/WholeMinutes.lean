import Recurrence.Calendar.Span
import Recurrence.Proofs.Text.Numeral

/-! Durations in words. A text spells one number of minutes as days, hours and minutes, and the words of a
duration spell its whole minutes, so that of a whole number of seconds less than a minute is lost. -/

namespace Recurrence

/-- The quotient of a multiple is exact and needs no rounding. -/
theorem roundedQuotient_mul (a : Nat) {b : Nat} (positive : 0 < b) : roundedQuotient (a * b) b = a := by
  have rest : a * b % b = 0 := Nat.mul_mod_left a b
  rw [roundedQuotient, rest, Nat.mul_zero, if_pos (.inl positive), Nat.mul_div_cancel a positive]

namespace Duration

variable {p q r s t u : Text} {unit : Char} {n m : Nat}

/-- Whole seconds are kept as they are, however many they may be. -/
theorem wholeSeconds_mul (seconds : Nat) : wholeSeconds (seconds * microsPerSecond) = seconds := by
  have second : 0 < microsPerSecond := by decide
  have scale : 0 < Nat.pow 2 (52 - seconds.log2) := Nat.pow_pos (by decide)
  rw [wholeSeconds, Nat.mul_div_cancel seconds second]
  dsimp only
  split
  · rename_i zero
    exact zero.symm
  · rw [Nat.mul_right_comm, roundedQuotient_mul _ second, Nat.mul_div_cancel seconds scale]

/-- A positive number with its unit behind it. Nothing stands for zero. -/
inductive IsPart (unit : Char) : Nat → Text → Prop
  | absent : IsPart unit 0 []
  | present {n : Nat} (positive : 0 < n) : IsPart unit n (decimal n ++ [unit])

/-- The text says so many minutes: days, hours and minutes in this order, each at most once and, but for
the days, less than what makes up the next unit. No minutes at all are `0m`. -/
inductive Spells : Nat → Text → Prop
  | nothing : Spells 0 ['0', 'm']
  | parts {days hours minutes : Nat} {a b c : Text} (inDays : IsPart 'd' days a)
      (inHours : IsPart 'h' hours b) (inMinutes : IsPart 'm' minutes c) (hours_lt : hours < 24)
      (minutes_lt : minutes < 60) (positive : 0 < 1440 * days + 60 * hours + minutes) :
      Spells (1440 * days + 60 * hours + minutes) (a ++ b ++ c)

/-! One part. -/

theorem isPart_unitText (n : Nat) (unit : Char) : IsPart unit n (unitText n unit) := by
  by_cases zero : n = 0
  · subst zero
    exact .absent
  · rw [unitText, if_neg zero]
    exact .present (Nat.pos_of_ne_zero zero)

theorem unitText_ne_nil (positive : 0 < n) : unitText n unit ≠ [] := by
  rw [unitText, if_neg (Nat.ne_of_gt positive)]
  exact List.append_ne_nil_of_left_ne_nil (decimal_ne_nil n) _

theorem IsPart.not_mem {c : Char} (part : IsPart unit n p) (sign : c.isDigit = false) (other : c ≠ unit) :
    c ∉ p := by
  cases part with
  | absent => exact List.not_mem_nil
  | present _ =>
      rw [List.mem_append, List.mem_singleton]
      exact not_or.mpr ⟨not_mem_decimal sign n, other⟩

/-- A part in front of a text without its unit is told by that unit, also where it is missing. -/
theorem IsPart.append_inj (hp : IsPart unit n p) (hq : IsPart unit m q) (letter : unit.isDigit = false)
    (hr : unit ∉ r) (hs : unit ∉ s) (same : p ++ r = q ++ s) : n = m ∧ r = s := by
  -- a part that is missing on one side only would leave its unit in the text behind it
  have inside (k : Nat) (rest : Text) : unit ∈ decimal k ++ [unit] ++ rest :=
    List.mem_append_left rest (List.mem_append_right _ List.mem_cons_self)
  cases hp with
  | absent =>
      cases hq with
      | absent => exact ⟨rfl, same⟩
      | present _ =>
          rw [List.nil_append] at same
          exact absurd (inside m s) (same ▸ hr)
  | present _ =>
      cases hq with
      | absent =>
          rw [List.nil_append] at same
          exact absurd (inside n r) (same ▸ hs)
      | present _ =>
          rw [List.append_assoc, List.append_assoc] at same
          obtain ⟨number, rest⟩ :=
            Text.eq_of_append_cons (not_mem_decimal letter n) (not_mem_decimal letter m) same
          exact ⟨decimal_inj number, rest⟩

/-- No part begins with a zero. -/
theorem IsPart.eq_nil_of_zero (part : IsPart unit n p) (zero : p ++ r = '0' :: s) : p = [] := by
  cases part with
  | absent => rfl
  | present positive =>
      obtain ⟨c, rest, front, first⟩ := exists_decimal_eq_cons positive
      rw [front, List.cons_append, List.cons_append] at zero
      obtain ⟨rfl, -⟩ := List.cons.inj zero
      exact absurd first (by decide)

/-! The parts in a row. -/

section Row

variable {days hours minutes days' hours' minutes' : Nat} {a b c a' b' c' : Text}

theorem not_mem_behind_days (hb : IsPart 'h' hours b) (hc : IsPart 'm' minutes c) : 'd' ∉ b ++ c := by
  rw [List.mem_append]
  exact not_or.mpr ⟨hb.not_mem (by decide) (by decide), hc.not_mem (by decide) (by decide)⟩

/-- The units tell which number belongs to which part. -/
theorem parts_unique (ha : IsPart 'd' days a) (hb : IsPart 'h' hours b) (hc : IsPart 'm' minutes c)
    (ha' : IsPart 'd' days' a') (hb' : IsPart 'h' hours' b') (hc' : IsPart 'm' minutes' c')
    (same : a ++ b ++ c = a' ++ b' ++ c') : days = days' ∧ hours = hours' ∧ minutes = minutes' := by
  rw [List.append_assoc, List.append_assoc] at same
  obtain ⟨inDays, behindDays⟩ :=
    ha.append_inj ha' (by decide) (not_mem_behind_days hb hc) (not_mem_behind_days hb' hc') same
  obtain ⟨inHours, behindHours⟩ := hb.append_inj hb' (by decide) (hc.not_mem (by decide) (by decide))
    (hc'.not_mem (by decide) (by decide)) behindDays
  obtain ⟨inMinutes, -⟩ := hc.append_inj hc' (by decide) List.not_mem_nil List.not_mem_nil
    (congrArg (· ++ []) behindHours)
  exact ⟨inDays, inHours, inMinutes⟩

theorem parts_ne_zero_cons (ha : IsPart 'd' days a) (hb : IsPart 'h' hours b)
    (hc : IsPart 'm' minutes c) : a ++ b ++ c ≠ '0' :: s := by
  intro zero
  rw [List.append_assoc] at zero
  rw [ha.eq_nil_of_zero zero, List.nil_append] at zero
  rw [hb.eq_nil_of_zero zero, List.nil_append, ← List.append_nil c] at zero
  rw [hc.eq_nil_of_zero zero] at zero
  cases zero

end Row

/-- A text spells one number of minutes only. -/
theorem Spells.minutes_unique (ht : Spells n t) (hu : Spells m u) (same : t = u) : n = m := by
  cases ht with
  | nothing =>
      cases hu with
      | nothing => rfl
      | parts ha hb hc _ _ _ => exact absurd same.symm (parts_ne_zero_cons ha hb hc)
  | parts ha hb hc _ _ _ =>
      cases hu with
      | nothing => exact absurd same (parts_ne_zero_cons ha hb hc)
      | parts ha' hb' hc' _ _ _ =>
          obtain ⟨rfl, rfl, rfl⟩ := parts_unique ha hb hc ha' hb' hc' same
          rfl

/-! The words of a number of minutes. -/

def minutesText (n : Nat) : Text :=
  if n = 0 then ['0', 'm']
  else unitText (n / 1440) 'd' ++ unitText (n / 60 % 24) 'h' ++ unitText (n % 60) 'm'

theorem spells_minutesText (n : Nat) : Spells n (minutesText n) := by
  by_cases zero : n = 0
  · subst zero
    exact .nothing
  · have radix : 1440 * (n / 1440) + 60 * (n / 60 % 24) + n % 60 = n := by omega
    have row : Spells (1440 * (n / 1440) + 60 * (n / 60 % 24) + n % 60)
        (unitText (n / 1440) 'd' ++ unitText (n / 60 % 24) 'h' ++ unitText (n % 60) 'm') :=
      .parts (isPart_unitText _ _) (isPart_unitText _ _) (isPart_unitText _ _)
        (Nat.mod_lt _ (by decide)) (Nat.mod_lt _ (by decide)) (by omega)
    rw [radix] at row
    rw [minutesText, if_neg zero]
    exact row

theorem minutesText_inj : minutesText n = minutesText m ↔ n = m :=
  ⟨(spells_minutesText n).minutes_unique (spells_minutesText m), congrArg minutesText⟩

theorem spells_minutesText_iff : Spells m (minutesText n) ↔ m = n := by
  constructor
  · intro spelled
    exact spelled.minutes_unique (spells_minutesText n) rfl
  · rintro rfl
    exact spells_minutesText m

/-- The row of parts is empty where there is no whole minute and only there. -/
theorem words_eq (d : Duration) : d.words = minutesText (wholeSeconds d.micros.toNat / 60) := by
  generalize seconds_eq : wholeSeconds d.micros.toNat = seconds
  have inDays : seconds / 86400 = seconds / 60 / 1440 := by omega
  have inHours : seconds % 86400 / 3600 = seconds / 60 / 60 % 24 := by omega
  have inMinutes : seconds % 3600 / 60 = seconds / 60 % 60 := by omega
  rw [words, seconds_eq, inDays, inHours, inMinutes, minutesText]
  generalize seconds / 60 = n
  by_cases zero : n = 0
  · subst zero
    rfl
  · have filled : unitText (n / 1440) 'd' ++ unitText (n / 60 % 24) 'h' ++ unitText (n % 60) 'm' ≠ [] := by
      intro empty
      obtain ⟨front, noMinutes⟩ := List.append_eq_nil_iff.mp empty
      obtain ⟨noDays, noHours⟩ := List.append_eq_nil_iff.mp front
      rcases (by omega : 0 < n / 1440 ∨ 0 < n / 60 % 24 ∨ 0 < n % 60) with positive | positive | positive
      · exact unitText_ne_nil positive noDays
      · exact unitText_ne_nil positive noHours
      · exact unitText_ne_nil positive noMinutes
    rw [if_neg zero, List.isEmpty_eq_false_iff.mpr filled, if_neg Bool.false_ne_true]

theorem words_of_whole {d : Duration} {seconds : Nat} (whole : d.micros = seconds * microsPerSecond) :
    d.words = minutesText (seconds / 60) := by
  rw [words_eq, whole, ← Int.natCast_mul, Int.toNat_natCast, wholeSeconds_mul]

/-- Of a whole number of seconds the words spell the minutes it holds and no other number. They are `0m`
for less than a minute only, and two durations share their words where they have equally many whole minutes. -/
theorem spells_words_iff {d : Duration} {seconds : Nat} (whole : d.micros = seconds * microsPerSecond) :
    (∀ n, Spells n d.words ↔ n = seconds / 60)
      ∧ (d.words = ['0', 'm'] ↔ seconds < 60)
      ∧ ∀ (e : Duration) (other : Nat), e.micros = other * microsPerSecond →
        (d.words = e.words ↔ seconds / 60 = other / 60) := by
  rw [words_of_whole whole]
  refine ⟨fun n => spells_minutesText_iff, ?_, ?_⟩
  · have nothing : minutesText 0 = ['0', 'm'] := rfl
    rw [← nothing, minutesText_inj]
    omega
  · intro e other alsoWhole
    rw [words_of_whole alsoWhole, minutesText_inj]

/-- A day, a minute and some seconds: the part of hours is missing, and other seconds make the same words
until the next minute. -/
theorem spells_words_iff_withoutHours :
    let d : Duration := ⟨86465 * microsPerSecond⟩
    d.micros = (86465 : Nat) * microsPerSecond
      ∧ d.words = ['1', 'd', '1', 'm']
      ∧ Spells 1441 d.words
      ∧ d.words ≠ ['0', 'm']
      ∧ d.words = (⟨86519 * microsPerSecond⟩ : Duration).words
      ∧ d.words ≠ (⟨86520 * microsPerSecond⟩ : Duration).words := by
  intro d
  have whole : d.micros = (86465 : Nat) * microsPerSecond := rfl
  obtain ⟨spelled, nothing, shared⟩ := spells_words_iff whole
  refine ⟨whole, by decide, (spelled 1441).mpr (by decide), ?_, ?_, ?_⟩
  · exact fun same => absurd (nothing.mp same) (by decide)
  · exact (shared ⟨86519 * microsPerSecond⟩ 86519 rfl).mpr (by decide)
  · exact fun same => absurd ((shared ⟨86520 * microsPerSecond⟩ 86520 rfl).mp same) (by decide)

end Duration

end Recurrence
