import Recurrence.Proofs.Text.Case

/-! Texts whose characters have no case. Such a text is its own small form, and no other text has it
for one; a word of ASCII is the small form of the texts that spell it in either case alone. -/

namespace Recurrence

/-- Two ranges have no number in common. -/
def isApart (y z : Nat × Nat) : Bool := Nat.blt y.2 z.1 || Nat.blt z.2 y.1

/-- Where the small letters of a run of capitals stand. -/
def smallRange (r : Nat × Nat × Nat × Int) : Nat × Nat :=
  (((r.1 : Int) + r.2.2.2).toNat, ((r.2.1 : Int) + r.2.2.2).toNat)

/-- No character of the ranges is a capital or a small letter. Among the codes from 304 to 1000 are the
two capitals whose small letters are not found by a shift, so these codes are left out. -/
def areCaseless (ranges : List (Nat × Nat)) : Bool :=
  ranges.all fun z =>
    (Nat.blt 0 z.1 && (Nat.blt z.2 65 || Nat.blt 122 z.1 && (Nat.blt z.2 304 || Nat.blt 1000 z.1)))
      && lowerRuns.all fun r => isApart z (r.1, r.2.1) && isApart z (smallRange r)

/-- Ranges of printing characters without case. -/
structure CaselessRanges where
  ranges : List (Nat × Nat)
  caseless : areCaseless ranges = true
  printing : (ranges.all fun z => blankRanges.all fun r => isApart z r) = true

def CaselessRanges.Holds (k : CaselessRanges) (c : Char) : Prop := inRanges k.ranges c.toNat = true

variable {k : CaselessRanges} {c d : Char} {t : Text}

theorem isApart_iff {y z : Nat × Nat} : isApart y z = true ↔ y.2 < z.1 ∨ z.2 < y.1 := by
  rw [isApart, Bool.or_eq_true, Nat.blt_eq, Nat.blt_eq]

theorem toLower_cases (ascii : c.toNat < 128) :
    c.toLower = c ∨ 97 ≤ c.toLower.toNat ∧ c.toLower.toNat ≤ 122 := by
  have each : ∀ n < 128, (Char.ofNat n).toLower = Char.ofNat n
      ∨ 97 ≤ (Char.ofNat n).toLower.toNat ∧ (Char.ofNat n).toLower.toNat ≤ 122 := by decide +kernel
  simpa only [Char.ofNat_toNat] using each c.toNat ascii

theorem smallSigma_toNat (inWord : Bool) (rest : Text) :
    (smallSigma inWord rest).toNat = 962 ∨ (smallSigma inWord rest).toNat = 963 := by
  unfold smallSigma
  split
  · exact .inl rfl
  · exact .inr rfl

theorem lowerChar_ne_nil (c : Char) : lowerChar c ≠ [] := by
  rw [lowerChar]
  split
  · exact List.cons_ne_nil _ _
  · split <;> exact List.cons_ne_nil _ _

namespace CaselessRanges

/-- The range of a character, apart from all capitals and small letters. -/
theorem Holds.exists_range (held : k.Holds c) : ∃ z ∈ k.ranges, (z.1 ≤ c.toNat ∧ c.toNat ≤ z.2)
    ∧ (0 < z.1 ∧ (z.2 < 65 ∨ 122 < z.1 ∧ (z.2 < 304 ∨ 1000 < z.1)))
    ∧ ∀ r ∈ lowerRuns, (z.2 < r.1 ∨ r.2.1 < z.1) ∧ (z.2 < (smallRange r).1 ∨ (smallRange r).2 < z.1) := by
  obtain ⟨z, member, within⟩ := List.any_eq_true.mp held
  rw [Bool.and_eq_true, decide_eq_true_eq, decide_eq_true_eq] at within
  have all := List.all_eq_true.mp k.caseless z member
  simp only [Bool.and_eq_true, Bool.or_eq_true, Nat.blt_eq, List.all_eq_true, isApart_iff] at all
  exact ⟨z, member, within, all⟩

theorem Holds.isBlank_eq_false (held : k.Holds c) : isBlank c = false := by
  obtain ⟨z, member, within, -⟩ := held.exists_range
  apply List.any_eq_false.mpr
  intro r range blank
  rw [Bool.and_eq_true, decide_eq_true_eq, decide_eq_true_eq] at blank
  have := isApart_iff.mp (List.all_eq_true.mp (List.all_eq_true.mp k.printing z member) r range)
  omega

theorem Holds.lowerChar_eq (held : k.Holds c) : lowerChar c = [c] := by
  obtain ⟨z, -, within, place, runs⟩ := held.exists_range
  rw [lowerChar]
  split
  · rw [toLower_eq_self (by omega)]
  · rw [if_neg (by omega), shiftBy_eq_self, Char.ofNat_toNat]
    intro r run
    have := (runs r run).1
    omega

theorem Holds.eq_of_mem_lowerChar (held : k.Holds d) (small : d ∈ lowerChar c) : c = d := by
  obtain ⟨z, -, within, place, runs⟩ := held.exists_range
  rw [lowerChar] at small
  split at small
  · rename_i ascii
    rw [List.mem_singleton] at small
    rcases toLower_cases ascii with same | letter
    · rw [small, same]
    · rw [← small] at letter
      omega
  · split at small
    · have others : ∀ e ∈ ['i', Char.ofNat 775], e.toNat = 105 ∨ e.toNat = 775 := by decide
      have := others d small
      omega
    · rw [List.mem_singleton] at small
      have code := toNat_ofNat_cases (shiftBy lowerRuns c.toNat)
      rw [← small] at code
      rcases code with code | zero
      · rcases shiftBy_cases lowerRuns c.toNat with same | ⟨r, run, first, last, shifted⟩
        · rw [same, Char.ofNat_toNat] at small
          exact small.symm
        · have := (runs r run).2
          simp only [smallRange] at this
          omega
      · omega

theorem lower_eq_self (held : ∀ c ∈ t, k.Holds c) : t.lower = t :=
  Text.lower_eq_self fun c member => (held c member).lowerChar_eq

/-- Small letters without case are the small letters of themselves alone. -/
theorem lowerFrom_eq_self {inWord : Bool} (held : ∀ d ∈ Text.lowerFrom inWord t, k.Holds d) :
    Text.lowerFrom inWord t = t := by
  induction t generalizing inWord with
  | nil => rfl
  | cons c r ih =>
      rw [Text.lowerFrom] at held ⊢
      split at held
      · obtain ⟨z, -, within, place, -⟩ := (held _ List.mem_cons_self).exists_range
        have code := smallSigma_toNat inWord r
        omega
      · rename_i other
        obtain ⟨d, member⟩ := List.exists_mem_of_ne_nil _ (lowerChar_ne_nil c)
        have known := held d (List.mem_append_left _ member)
        obtain rfl := known.eq_of_mem_lowerChar member
        rw [if_neg other, ih fun d later => held d (List.mem_append_right _ later), known.lowerChar_eq,
          List.singleton_append]

end CaselessRanges

/-! Words of ASCII in either case. -/

theorem toNat_lt_of_toLower (small : c.toLower.toNat ≤ 122) : c.toNat < 128 := by
  by_contra beyond
  rw [toLower_eq_self (by omega)] at small
  omega

/-- Of the characters outside ASCII only the sign for the kelvin has a small letter of ASCII for its own. -/
theorem lowerChar_of_isPlainWord (plain : IsPlainWord (lowerChar c)) : lowerChar c = [c.toLower] := by
  unfold lowerChar at plain ⊢
  split
  · rfl
  · rename_i beyond
    rw [if_neg beyond] at plain
    split at plain
    · have := (plain (Char.ofNat 775) (by decide)).2.1
      exact absurd this (by decide)
    · obtain ⟨low, high, other⟩ := plain _ (List.mem_singleton_self _)
      have code := toNat_ofNat_cases (shiftBy lowerRuns c.toNat)
      have kelvin := ascii_of_shiftBy (Nat.not_lt.mp beyond) (by omega)
      exact absurd (Char.toNat_inj.mp ((code.resolve_right (by omega)).trans kelvin)) other

theorem map_toLower_of_lowerFrom {inWord : Bool} {s : Text} (plain : IsPlainWord s)
    (spelled : Text.lowerFrom inWord t = s) : t.map Char.toLower = s := by
  induction t generalizing inWord s with
  | nil => exact spelled
  | cons c r ih =>
      subst spelled
      rw [Text.lowerFrom] at plain ⊢
      split at plain
      · have := (plain _ List.mem_cons_self).2.1
        have := smallSigma_toNat inWord r
        omega
      · rename_i other
        have letters := lowerChar_of_isPlainWord fun d member => plain d (List.mem_append_left _ member)
        have behind := ih (fun d later => plain d (List.mem_append_right _ later)) rfl
        rw [if_neg other, List.map_cons, behind, letters, List.singleton_append]

/-- A word of ASCII is what the small letters spell where the letters of ASCII do so alone. -/
theorem lower_eq_iff {s : Text} (plain : IsPlainWord s) : t.lower = s ↔ t.map Char.toLower = s := by
  refine ⟨map_toLower_of_lowerFrom plain, ?_⟩
  rintro rfl
  have ascii : ∀ c ∈ t, c.toNat < 128 := fun c member =>
    toNat_lt_of_toLower (plain c.toLower (List.mem_map_of_mem member)).2.1
  have free : 'Σ' ∉ t := fun member => absurd (ascii 'Σ' member) (by decide)
  rw [Text.lower_eq_flatMap free, List.map_eq_flatMap]
  exact List.flatMap_congr fun c member => if_pos (ascii c member)

/-! Digits of every script. -/

/-- The digits of every script, and what stands for one. -/
def digitCharacters : CaselessRanges where
  ranges := digitZeros.map (fun z => (z, z + 9)) ++ digitLikeRanges
  caseless := by decide +kernel
  printing := by decide +kernel

theorem isDigitLike_iff : isDigitLike c = true ↔ digitCharacters.Holds c := by
  have decimal : isDigit c = inRanges (digitZeros.map fun z => (z, z + 9)) c.toNat := by
    rw [Bool.eq_iff_iff, isDigit, digitValue?, Option.isSome_map, List.find?_isSome, inRanges,
      List.any_map, List.any_eq_true]
    rfl
  rw [isDigitLike, decimal, CaselessRanges.Holds, digitCharacters, inRanges, inRanges, inRanges,
    List.any_append]

theorem isDigitLike_of_isAnyDigit (digit : isDigit c = true) : isDigitLike c = true := by
  rw [isDigitLike, digit, Bool.true_or]

theorem isBlank_of_isDigitLike (like : isDigitLike c = true) : isBlank c = false :=
  (isDigitLike_iff.mp like).isBlank_eq_false

theorem isBlank_of_isAnyDigit (digit : isDigit c = true) : isBlank c = false :=
  isBlank_of_isDigitLike (isDigitLike_of_isAnyDigit digit)

end Recurrence
