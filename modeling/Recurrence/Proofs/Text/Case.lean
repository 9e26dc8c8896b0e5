import Mathlib.Data.List.Basic
import Recurrence.Proofs.Pattern.Captured
import Recurrence.Proofs.Text.Numeral

/-! Small letters. What is compared as a letter of ASCII without regard to case has that letter as its
small one, three letters of other alphabets excepted. -/

namespace Recurrence

/-! Runs of letters. -/

variable {runs : List (Nat × Nat × Nat × Int)} {n : Nat} {c l : Char} {s t : Text}

theorem shiftBy_eq_self (outside : ∀ r ∈ runs, n < r.1 ∨ r.2.1 < n) : shiftBy runs n = n := by
  have none : runs.find? (fun r =>
      decide (r.1 ≤ n) && decide (n ≤ r.2.1) && (n - r.1) % r.2.2.1 == 0) = none := by
    apply List.find?_eq_none.mpr
    intro r member within
    rw [Bool.and_eq_true, Bool.and_eq_true, decide_eq_true_eq, decide_eq_true_eq] at within
    have := outside r member
    omega
  rw [shiftBy, none]

theorem shiftBy_cases (runs : List (Nat × Nat × Nat × Int)) (n : Nat) :
    shiftBy runs n = n ∨
      ∃ r ∈ runs, r.1 ≤ n ∧ n ≤ r.2.1 ∧ shiftBy runs n = ((n : Int) + r.2.2.2).toNat := by
  rw [shiftBy]
  split
  · rename_i r found
    have within := List.find?_some found
    rw [Bool.and_eq_true, Bool.and_eq_true, decide_eq_true_eq, decide_eq_true_eq] at within
    exact .inr ⟨r, List.mem_of_find?_eq_some found, within.1.1, within.1.2, rfl⟩
  · exact .inl rfl

/-- The only capital outside ASCII with a small letter of ASCII is the sign for the kelvin. -/
theorem ascii_of_shiftBy (outside : 128 ≤ n) (inside : shiftBy lowerRuns n < 128) :
    shiftBy lowerRuns n = 'k'.toNat := by
  have far : ∀ r ∈ lowerRuns, 128 ≤ (r.1 : Int) + r.2.2.2 ∨ r = (8490, 8490, 1, -8383) := by
    decide +kernel
  rcases shiftBy_cases lowerRuns n with same | ⟨r, member, low, high, shifted⟩
  · omega
  · rcases far r member with beyond | rfl
    · omega
    · rw [shifted, Nat.le_antisymm high low]
      rfl

theorem toLower_eq_self (outside : c.toNat < 65 ∨ 90 < c.toNat) : c.toLower = c := by
  unfold Char.toLower
  split
  · rename_i capital
    have low : (65 : UInt32) ≤ c.val := capital.1
    have high : c.val ≤ (90 : UInt32) := capital.2
    rw [UInt32.le_iff_toNat_le] at low high
    have : 65 ≤ c.toNat := low
    have : c.toNat ≤ 90 := high
    omega
  · rfl

/-! Letters compared without regard to case. -/

/-- The letters outside ASCII that are taken for an `s` or an `i`, and have other small letters. -/
def lookalikes : Text := ['ſ', 'ı', 'İ']

/-- The characters of their small letters that are not of ASCII. -/
def marks : Text := ['ſ', 'ı', Char.ofNat 775]

/-- A word of small letters of ASCII; the k, for which the sign for the kelvin stands too, is
not among them. -/
def IsPlainWord (t : Text) : Prop := ∀ l ∈ t, 97 ≤ l.toNat ∧ l.toNat ≤ 122 ∧ l ≠ 'k'

instance : DecidablePred IsPlainWord := fun _ => List.decidableBAll ..

/-- A number that is no code point stands for the character zero. -/
theorem toNat_ofNat_cases (n : Nat) : (Char.ofNat n).toNat = n ∨ (Char.ofNat n).toNat = 0 := by
  rw [Char.ofNat]
  by_cases valid : n.isValidChar
  · rw [dif_pos valid]
    exact .inl rfl
  · rw [dif_neg valid]
    exact .inr rfl

theorem of_sameLetter (small : 97 ≤ l.toNat ∧ l.toNat ≤ 122 ∧ l ≠ 'k')
    (same : Pattern.sameLetter l c = true) : c ∈ lookalikes ∨ c.toNat < 128 ∧ c.toLower = l := by
  rw [Pattern.sameLetter, Bool.or_eq_true, Bool.or_eq_true, Bool.and_eq_true, Bool.and_eq_true,
    beq_iff_eq, beq_iff_eq, beq_iff_eq, beq_iff_eq, beq_iff_eq] at same
  rcases same with (folded | ⟨-, rfl⟩) | ⟨-, rfl⟩
  · rw [foldChar] at folded
    split at folded
    · rename_i ascii
      exact .inr ⟨ascii, folded⟩
    · rename_i beyond
      split at folded
      · rename_i dotted
        have letter : c = 'İ' := Char.toNat_inj.mp dotted
        exact .inl (letter ▸ by decide)
      · -- a capital of another alphabet would have to be the sign for the kelvin
        have code := toNat_ofNat_cases (shiftBy lowerRuns c.toNat)
        rw [folded] at code
        rcases code with code | zero
        · have kelvin := ascii_of_shiftBy (Nat.not_lt.mp beyond) (by omega)
          exact absurd (Char.toNat_inj.mp (code.trans kelvin)) small.2.2
        · omega
  · exact .inl (by decide)
  · exact .inl (by decide)

namespace Text

theorem lowerFrom_eq_flatMap {inWord : Bool} (h : 'Σ' ∉ t) :
    lowerFrom inWord t = t.flatMap lowerChar := by
  induction t generalizing inWord with
  | nil => rfl
  | cons c r ih =>
      have other : c ≠ 'Σ' := fun same => h (same ▸ List.mem_cons_self)
      rw [lowerFrom, if_neg other, ih fun later => h (List.mem_cons_of_mem c later),
        List.flatMap_cons]

theorem lower_eq_flatMap (h : 'Σ' ∉ t) : t.lower = t.flatMap lowerChar := lowerFrom_eq_flatMap h

theorem lower_eq_self (h : ∀ c ∈ t, lowerChar c = [c]) : t.lower = t := by
  have free : 'Σ' ∉ t := fun member => absurd (h 'Σ' member) (by decide)
  rw [lower_eq_flatMap free, List.flatMap_congr h]
  exact List.flatMap_singleton' t

end Text

/-- The characters that a word of ASCII is compared equal to. -/
theorem of_mem_sameWord (plain : IsPlainWord s) (same : Pattern.SameWord s t) :
    ∀ c ∈ t, c ∈ lookalikes ∨ c.toNat < 128 ∧ 97 ≤ c.toLower.toNat := by
  induction same with
  | nil => exact fun _ absent => absurd absent List.not_mem_nil
  | @cons l c s t here later ih =>
      obtain ⟨first, others⟩ := List.forall_mem_cons.mp plain
      intro d member
      rcases List.mem_cons.mp member with rfl | behind
      · rcases of_sameLetter first here with odd | ⟨ascii, rfl⟩
        · exact .inl odd
        · exact .inr ⟨ascii, first.1⟩
      · exact ih others d behind

theorem strip_of_sameWord (plain : IsPlainWord s) (same : Pattern.SameWord s t) : t.strip = t := by
  have letters : ∀ n < 128, 97 ≤ (Char.ofNat n).toLower.toNat → isBlank (Char.ofNat n) = false := by
    decide +kernel
  have odd : ∀ c ∈ lookalikes, isBlank c = false := by decide +kernel
  apply Text.strip_eq_self
  intro c member
  rcases of_mem_sameWord plain same c member with lookalike | ⟨ascii, small⟩
  · exact odd c lookalike
  · have := letters c.toNat ascii
    rw [Char.ofNat_toNat] at this
    exact this small

theorem sigma_not_mem_of_sameWord (plain : IsPlainWord s) (same : Pattern.SameWord s t) :
    'Σ' ∉ t := by
  intro member
  rcases of_mem_sameWord plain same 'Σ' member with lookalike | ⟨ascii, -⟩
  · exact absurd lookalike (by decide)
  · exact absurd ascii (by decide)

/-- With one of them the small letters hold a character that is in no word of ASCII. -/
theorem exists_mark_of_sameWord (plain : IsPlainWord s) (same : Pattern.SameWord s t)
    (odd : ∃ c ∈ t, c ∈ lookalikes) : ∃ d ∈ t.lower, d ∈ marks := by
  have marked : ∀ c ∈ lookalikes, ∃ d ∈ lowerChar c, d ∈ marks := by decide +kernel
  obtain ⟨c, member, lookalike⟩ := odd
  obtain ⟨d, within, mark⟩ := marked c lookalike
  rw [Text.lower_eq_flatMap (sigma_not_mem_of_sameWord plain same)]
  exact ⟨d, List.mem_flatMap.mpr ⟨c, member, within⟩, mark⟩

theorem ne_of_mark (plain : IsPlainWord s) (marked : ∃ d ∈ t, d ∈ marks) : s ≠ t := by
  have beyond : ∀ d ∈ marks, 122 < d.toNat := by decide
  rintro rfl
  obtain ⟨d, member, mark⟩ := marked
  exact absurd (plain d member).2.1 (Nat.not_le_of_lt (beyond d mark))

/-- Without one of them the word itself is what the small letters spell. -/
theorem lower_of_sameWord (plain : IsPlainWord s) (same : Pattern.SameWord s t)
    (pure : ∀ c ∈ t, c ∉ lookalikes) : t.lower = s := by
  rw [Text.lower_eq_flatMap (sigma_not_mem_of_sameWord plain same)]
  induction same with
  | nil => rfl
  | @cons l c s t here later ih =>
      obtain ⟨first, others⟩ := List.forall_mem_cons.mp plain
      obtain ⟨free, rest⟩ := List.forall_mem_cons.mp pure
      rcases of_sameLetter first here with odd | ⟨ascii, small⟩
      · exact absurd odd free
      · rw [List.flatMap_cons, lowerChar, if_pos ascii, small, ih others rest]
        rfl

end Recurrence
