import Recurrence.Proofs.Calendar.Stepping
import Recurrence.Proofs.DateText.EarlyYear

/-! Compact dates are told apart by their texts, and those of the year 1000 or later stand in the
order of their days: as texts of eight digits they are ordered as the numbers they are. -/

namespace Recurrence

namespace Text

theorem notAfter_total (a b : Text) : (a.notAfter b || b.notAfter a) = true := by
  induction a generalizing b with
  | nil => rfl
  | cons c r ih =>
      cases b with
      | nil => rfl
      | cons d s =>
          rw [notAfter, notAfter]
          by_cases same : c = d
          · rw [if_pos same, if_pos same.symm]
            exact ih s
          · have apart : c.toNat ≠ d.toNat := fun equal => same (Char.toNat_inj.mp equal)
            rw [if_neg same, if_neg (Ne.symm same), Bool.or_eq_true, decide_eq_true_iff,
              decide_eq_true_iff]
            omega

theorem notAfter_refl (a : Text) : a.notAfter a = true :=
  (Bool.or_self _).symm.trans (notAfter_total a a)

theorem notAfter_trans {a b c : Text} (h : a.notAfter b = true) (h' : b.notAfter c = true) :
    a.notAfter c = true := by
  induction a generalizing b c with
  | nil => rfl
  | cons x r ih =>
      cases b with
      | nil => cases h
      | cons y s =>
          cases c with
          | nil => cases h'
          | cons z t =>
              rw [notAfter] at h h' ⊢
              split at h
              · rename_i same
                subst same
                split
                · rename_i same
                  rw [if_pos same] at h'
                  exact ih h h'
                · rename_i other
                  rw [if_neg other] at h'
                  exact h'
              · split at h'
                · rename_i before same
                  subst same
                  rw [if_neg before]
                  exact h
                · rw [decide_eq_true_iff] at h h'
                  have apart : x ≠ z := by
                    rintro rfl
                    omega
                  rw [if_neg apart, decide_eq_true_iff]
                  omega

theorem notAfter_antisymm {a b : Text} (h : a.notAfter b = true) (h' : b.notAfter a = true) :
    a = b := by
  induction a generalizing b with
  | nil =>
      cases b with
      | nil => rfl
      | cons d s => cases h'
  | cons c r ih =>
      cases b with
      | nil => cases h
      | cons d s =>
          rw [notAfter] at h h'
          by_cases same : c = d
          · rw [if_pos same] at h
            rw [if_pos same.symm] at h'
            rw [same, ih h h']
          · rw [if_neg same, decide_eq_true_iff] at h
            rw [if_neg (Ne.symm same), decide_eq_true_iff] at h'
            omega

end Text

namespace DateText

theorem ofDigitChars_lt {t : Text} (digits : ∀ c ∈ t, c.isDigit = true) (n : Nat) :
    Nat.ofDigitChars 10 t n < (n + 1) * Nat.pow 10 t.length := by
  induction t generalizing n with
  | nil =>
      have one : Nat.pow 10 ([] : Text).length = 1 := rfl
      rw [one, Nat.mul_one]
      exact Nat.lt_succ_self n
  | cons c r ih =>
      have bounds := digit_bounds (digits c List.mem_cons_self)
      have more := ih (fun d later => digits d (List.mem_cons_of_mem c later)) (10 * n + digitWorth c)
      have next : Nat.pow 10 (c :: r).length = Nat.pow 10 r.length * 10 := rfl
      have room : 10 * n + digitWorth c + 1 ≤ (n + 1) * 10 := by
        rw [digitWorth]
        omega
      rw [Nat.ofDigitChars_cons, next, Nat.mul_comm _ 10, ← Nat.mul_assoc]
      exact Nat.lt_of_lt_of_le more (Nat.mul_le_mul_right _ room)

/-- The first number decides, whatever follows it in equally many digits. -/
theorem ofDigitChars_lt_of_lt {t u : Text} (digits : ∀ c ∈ t, c.isDigit = true)
    (same : t.length = u.length) {n m : Nat} (h : n < m) :
    Nat.ofDigitChars 10 t n < Nat.ofDigitChars 10 u m := by
  have below := ofDigitChars_lt digits n
  have above := le_ofDigitChars u m
  rw [← same] at above
  exact Nat.lt_of_lt_of_le below (Nat.le_trans (Nat.mul_le_mul_right _ h) above)

/-- Texts of equally many digits are in the order of the numbers they are. -/
theorem notAfter_iff_value {t u : Text} (ht : ∀ c ∈ t, c.isDigit = true)
    (hu : ∀ c ∈ u, c.isDigit = true) (same : t.length = u.length) (n : Nat) :
    t.notAfter u = true ↔ Nat.ofDigitChars 10 t n ≤ Nat.ofDigitChars 10 u n := by
  induction t generalizing u n with
  | nil =>
      rw [List.length_eq_zero_iff.mp same.symm]
      exact ⟨fun _ => Nat.le_refl _, fun _ => rfl⟩
  | cons c r ih =>
      cases u with
      | nil => cases same
      | cons d s =>
          have ht' : ∀ x ∈ r, x.isDigit = true := fun x later => ht x (List.mem_cons_of_mem c later)
          have hu' : ∀ x ∈ s, x.isDigit = true := fun x later => hu x (List.mem_cons_of_mem d later)
          have same' : r.length = s.length := Nat.succ.inj same
          have first := digit_bounds (ht c List.mem_cons_self)
          have other := digit_bounds (hu d List.mem_cons_self)
          rw [Text.notAfter, Nat.ofDigitChars_cons, Nat.ofDigitChars_cons]
          by_cases equal : c = d
          · rw [if_pos equal, equal]
            exact ih ht' hu' same' _
          · have apart : c.toNat ≠ d.toNat := fun h => equal (Char.toNat_inj.mp h)
            rw [if_neg equal, decide_eq_true_iff]
            rcases Nat.lt_or_gt_of_ne apart with before | after
            · have worth : 10 * n + digitWorth c < 10 * n + digitWorth d := by
                rw [digitWorth, digitWorth]
                omega
              exact ⟨fun _ => Nat.le_of_lt (ofDigitChars_lt_of_lt ht' same' worth), fun _ => before⟩
            · have worth : 10 * n + digitWorth d < 10 * n + digitWorth c := by
                rw [digitWorth, digitWorth]
                omega
              have less := ofDigitChars_lt_of_lt hu' same'.symm worth
              exact ⟨fun h => absurd h (Nat.lt_asymm after), fun h => absurd h (Nat.not_le_of_lt less)⟩

end DateText

namespace Date

open DateText

theorem value_compactText (d : Date) :
    Nat.ofDigitChars 10 d.compactText 0 = d.year * 10000 + d.month * 100 + d.day := by
  have worth : ∀ k < 10, (Nat.digitChar k).toNat - '0'.toNat = k := by decide
  have month := d.month_lt
  have day := d.day_lt
  rw [compactText_eq, decimalPadded_two month, decimalPadded_two day, Nat.ofDigitChars_append,
    ofDigitChars_decimal]
  simp only [List.cons_append, List.nil_append, Nat.ofDigitChars_cons, Nat.ofDigitChars_nil,
    worth _ (by omega : d.month / 10 < 10), worth _ (by omega : d.month % 10 < 10),
    worth _ (by omega : d.day / 10 < 10), worth _ (by omega : d.day % 10 < 10)]
  omega

theorem compactText_inj {d e : Date} : d.compactText = e.compactText ↔ d = e := by
  refine ⟨?_, congrArg compactText⟩
  intro same
  have values := congrArg (fun t => Nat.ofDigitChars 10 t 0) same
  rw [value_compactText, value_compactText] at values
  have := d.month_lt
  have := d.day_lt
  have := e.month_lt
  have := e.day_lt
  rcases d with ⟨y, m, k, _⟩
  rcases e with ⟨y', m', k', _⟩
  dsimp only at *
  obtain ⟨rfl, rfl, rfl⟩ : y = y' ∧ m = m' ∧ k = k' := by omega
  rfl

/-- Compact dates of the year 1000 or later stand in the order of their days. -/
theorem notAfter_compactText {d e : Date} (hd : 1000 ≤ d.year) (he : 1000 ≤ e.year) :
    d.compactText.notAfter e.compactText = true ↔ d ≤ e := by
  have lengths : d.compactText.length = e.compactText.length := by
    rw [length_compactText hd, length_compactText he]
  have := d.month_lt
  have := d.day_lt
  have := e.month_lt
  have := e.day_lt
  rw [notAfter_iff_value (fun _ => isDigit_of_mem_compactText) (fun _ => isDigit_of_mem_compactText)
    lengths 0, value_compactText, value_compactText, le_iff_parts]
  omega

end Date

end Recurrence
