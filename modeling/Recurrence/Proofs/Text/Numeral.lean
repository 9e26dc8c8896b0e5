import Mathlib.Data.List.Induction
import Recurrence.Proofs.Fault
import Recurrence.Proofs.Text.Cut
import Recurrence.Magnitude
import Recurrence.Text.Integer

/-! Numerals are read as what was written: decimal digits give back the number, a sign included,
and lists of numerals between commas give back the list. -/

namespace Recurrence

theorem digit_bounds {c : Char} (h : c.isDigit = true) : 48 ≤ c.toNat ∧ c.toNat ≤ 57 :=
  Char.isDigit_iff_toNat.mp h

/-- The worth of an ASCII digit. -/
def digitWorth (c : Char) : Nat := c.toNat - 48

theorem digitValue?_of_isDigit {c : Char} (h : c.isDigit = true) :
    digitValue? c = some (digitWorth c) := by
  have found : digitZeros.find? (fun z => decide (z ≤ c.toNat) && decide (c.toNat ≤ z + 9))
      = some 48 := by
    rw [digitZeros, List.find?_cons, decide_eq_true (digit_bounds h).1,
      decide_eq_true (digit_bounds h).2]
    rfl
  rw [digitValue?, found]
  rfl

theorem digitValue?_lt {c : Char} {d : Nat} (h : digitValue? c = some d) : d < 10 := by
  obtain ⟨first, found, rfl⟩ := Option.map_eq_some_iff.mp h
  have within := List.find?_some found
  rw [Bool.and_eq_true, decide_eq_true_eq, decide_eq_true_eq] at within
  omega

theorem isBlank_of_isDigit {c : Char} (h : c.isDigit = true) : isBlank c = false :=
  isBlank_of_printing (Nat.le_trans (by decide) (digit_bounds h).1)
    (Nat.le_trans (digit_bounds h).2 (by decide))

theorem isDigit_digitChar {d : Nat} (h : d < 10) : (Nat.digitChar d).isDigit = true :=
  Nat.isDigit_of_mem_toDigits (b := 10) (n := d) (by decide) (by decide)
    (by rw [Nat.toDigits_of_lt_base h]; exact List.mem_cons_self)

theorem isDigit_of_mem_decimal {n : Nat} {c : Char} (h : c ∈ decimal n) : c.isDigit = true :=
  Nat.isDigit_of_mem_toDigits (by decide) (by decide) h

theorem not_mem_decimal {c : Char} (sign : c.isDigit = false) (n : Nat) : c ∉ decimal n := by
  intro member
  rw [isDigit_of_mem_decimal member] at sign
  cases sign

theorem decimal_ne_nil (n : Nat) : decimal n ≠ [] := Nat.toDigits_ne_nil

theorem decimal_inj {n m : Nat} (same : decimal n = decimal m) : n = m := by
  have read := congrArg (fun t => Nat.ofDigitChars 10 t 0) same
  simp only [decimal, Nat.ofDigitChars_ten_toDigits] at read
  exact read

/-- Numerals tell the integers apart: the sign is no digit. -/
theorem decimalInt_inj {a b : Int} (same : decimalInt a = decimalInt b) : a = b := by
  have minus (n : Nat) : '-' ∉ decimal n := not_mem_decimal (by decide) n
  cases a with
  | ofNat n =>
      cases b with
      | ofNat m => rw [decimal_inj same]
      | negSucc m => exact absurd (same ▸ List.mem_cons_self : '-' ∈ decimalInt (.ofNat n)) (minus n)
  | negSucc n =>
      cases b with
      | ofNat m => exact absurd (same ▸ List.mem_cons_self : '-' ∈ decimalInt (.ofNat m)) (minus m)
      | negSucc m => rw [Nat.succ.inj (decimal_inj (List.cons.inj same).2)]

/-- The first digit of a number is not zero. -/
theorem exists_decimal_eq_cons {n : Nat} (positive : 0 < n) :
    ∃ c r, decimal n = c :: r ∧ 1 ≤ digitWorth c := by
  induction n using Nat.strongRecOn with
  | _ n ih =>
      have worth : ∀ d < 10, digitWorth (Nat.digitChar d) = d := by decide
      by_cases small : n < 10
      · refine ⟨Nat.digitChar n, [], Nat.toDigits_of_lt_base small, ?_⟩
        rw [worth n small]
        exact positive
      · obtain ⟨c, r, front, first⟩ := ih (n / 10) (by omega) (by omega)
        refine ⟨c, r ++ [Nat.digitChar (n % 10)], ?_, first⟩
        rw [decimal, Nat.toDigits_of_base_le (by decide) (by omega)]
        exact congrArg (· ++ [Nat.digitChar (n % 10)]) front

/-- Two digits with a zero in front where it is needed. -/
theorem decimalPadded_two {n : Nat} (h : n < 100) :
    decimalPadded 2 n = [Nat.digitChar (n / 10), Nat.digitChar (n % 10)] := by
  by_cases small : n < 10
  · rw [decimalPadded, decimal, Nat.toDigits_of_lt_base small, Nat.div_eq_of_lt small,
      Nat.mod_eq_of_lt small]
    rfl
  · have tens : n / 10 < 10 := by omega
    rw [decimalPadded, decimal, Nat.toDigits_of_base_le (by decide) (by omega),
      Nat.toDigits_of_lt_base tens]
    rfl

theorem decimal_four {n : Nat} (low : 1000 ≤ n) (high : n ≤ 9999) :
    decimal n = [Nat.digitChar (n / 1000), Nat.digitChar (n / 100 % 10),
      Nat.digitChar (n / 10 % 10), Nat.digitChar (n % 10)] := by
  have hundreds : n / 10 / 10 = n / 100 := by omega
  have thousands : n / 100 / 10 = n / 1000 := by omega
  rw [decimal, Nat.toDigits_of_base_le (by decide) (by omega),
    Nat.toDigits_of_base_le (by decide) (by omega), hundreds,
    Nat.toDigits_of_base_le (by decide) (by omega), thousands,
    Nat.toDigits_of_lt_base (by omega)]
  rfl

namespace Integer

/-- An integer whose numeral has no more digits than are read and written. -/
def IsShort (n : Int) : Prop := n.natAbs < Nat.pow 10 digitLimit

/-- What fits into a word has at most nineteen digits. -/
theorem isShort_of_fitsWord {n : Int} (h : fitsWord n = true) : IsShort n := by
  have bounds : -(wordLimit : Int) ≤ n ∧ n < wordLimit := by
    rw [fitsWord, Bool.and_eq_true, decide_eq_true_eq, decide_eq_true_eq] at h
    exact h
  have small : n.natAbs < Nat.pow 10 19 := by
    simp only [wordLimit] at bounds
    have : Nat.pow 10 19 = 10000000000000000000 := by decide
    omega
  have more : Nat.pow 10 19 ≤ Nat.pow 10 digitLimit := by
    apply Nat.pow_le_pow_right
    · decide
    · decide
  exact Nat.lt_of_lt_of_le small more

theorem leadingDigits?_of_isDigit {t : Text} {afterDigit : Bool}
    (h : ∀ c ∈ t, c.isDigit = true) (nonempty : afterDigit = true ∨ t ≠ []) :
    leadingDigits? afterDigit t = some (t.map digitWorth, []) := by
  induction t generalizing afterDigit with
  | nil =>
      rcases nonempty with rfl | absent
      · rfl
      · exact absurd rfl absent
  | cons c r ih =>
      rw [leadingDigits?, digitValue?_of_isDigit (h c List.mem_cons_self)]
      dsimp only
      rw [ih (fun d later => h d (List.mem_cons_of_mem c later)) (.inl rfl)]
      rfl

theorem ofDigits_map_digitWorth (t : Text) :
    ofDigits (t.map digitWorth) = Nat.ofDigitChars 10 t 0 := by
  rw [ofDigits, List.foldl_map, Nat.ofDigitChars_eq_foldl]
  simp only [digitWorth, Nat.mul_comm]
  rfl

theorem ofDigits_decimal (n : Nat) : ofDigits ((decimal n).map digitWorth) = n := by
  rw [ofDigits_map_digitWorth, decimal, Nat.ofDigitChars_ten_toDigits]

theorem length_decimal_le {n k : Nat} (positive : 0 < k) (h : n < Nat.pow 10 k) :
    (decimal n).length ≤ k :=
  (Nat.length_toDigits_le_iff (by decide) positive).mpr h

theorem mem_decimalInt {n : Int} {c : Char} (h : c ∈ decimalInt n) :
    c = '-' ∨ c.isDigit = true := by
  cases n with
  | ofNat n => exact .inr (isDigit_of_mem_decimal h)
  | negSucc n =>
      rcases List.mem_cons.mp h with sign | digit
      · exact .inl sign
      · exact .inr (isDigit_of_mem_decimal digit)

/-- The code points of a numeral lie from the minus to the nine. -/
theorem decimalInt_bounds {n : Int} {c : Char} (h : c ∈ decimalInt n) :
    45 ≤ c.toNat ∧ c.toNat ≤ 57 := by
  rcases mem_decimalInt h with rfl | digit
  · decide
  · have := digit_bounds digit
    omega

theorem isBlank_of_mem_decimalInt {n : Int} {c : Char} (h : c ∈ decimalInt n) :
    isBlank c = false := by
  have := decimalInt_bounds h
  exact isBlank_of_printing (by omega) (by omega)

theorem signed_decimal (n : Nat) : signed (decimal n) = (false, decimal n) := by
  unfold signed
  split
  · rename_i r shape
    exact absurd (shape ▸ List.mem_cons_self) (not_mem_decimal (by decide : '-'.isDigit = false) n)
  · rename_i r shape
    exact absurd (shape ▸ List.mem_cons_self) (not_mem_decimal (by decide : '+'.isDigit = false) n)
  · rfl

theorem leadingDigits?_decimal (n : Nat) :
    leadingDigits? false (decimal n) = some ((decimal n).map digitWorth, []) :=
  leadingDigits?_of_isDigit (fun _ h => isDigit_of_mem_decimal h) (.inr (decimal_ne_nil n))

/-- Reading gives back what was written. -/
theorem read_decimalInt {n : Int} (h : IsShort n) : read (decimalInt n) = .ok n := by
  have bare : (decimalInt n).trimBoth isSurrounding = decimalInt n := by
    apply Text.trimBoth_eq_self
    intro c member
    rw [isSurrounding, isBlank_of_mem_decimalInt member, Bool.false_and]
  rw [read, bare]
  cases n with
  | ofNat k =>
      have fits : ¬ digitLimit < ((decimal k).map digitWorth).length := by
        rw [List.length_map]
        exact Nat.not_lt.mpr (length_decimal_le (by decide) h)
      simp only [decimalInt, signed_decimal, leadingDigits?_decimal, if_neg fits,
        List.isEmpty_nil, if_true, Bool.false_eq_true, if_false, ofDigits_decimal]
      rfl
  | negSucc k =>
      have fits : ¬ digitLimit < ((decimal (k + 1)).map digitWorth).length := by
        rw [List.length_map]
        exact Nat.not_lt.mpr (length_decimal_le (by decide) h)
      simp only [decimalInt, signed, leadingDigits?_decimal, if_neg fits,
        List.isEmpty_nil, if_true, ofDigits_decimal]
      rfl

theorem read?_decimalInt {n : Int} (h : IsShort n) : read? (decimalInt n) = some n := by
  rw [read?, Text.strip_eq_self fun c member => isBlank_of_mem_decimalInt member,
    read_decimalInt h]
  rfl

theorem ofDigits_lt {ds : List Nat} (h : ∀ d ∈ ds, d < 10) : ofDigits ds < Nat.pow 10 ds.length := by
  induction ds using List.reverseRecOn with
  | nil => exact Nat.zero_lt_one
  | append_singleton ds d ih =>
      have front := ih fun e member => h e (List.mem_append_left [d] member)
      have last := h d (List.mem_append_right ds List.mem_cons_self)
      have goesOn : ofDigits (ds ++ [d]) = ofDigits ds * 10 + d := by
        rw [ofDigits, List.foldl_append]
        rfl
      rw [goesOn, List.length_append, List.length_singleton]
      change _ < Nat.pow 10 ds.length * 10
      omega

theorem leadingDigits?_lt {t rest : Text} {afterDigit : Bool} {ds : List Nat}
    (h : leadingDigits? afterDigit t = some (ds, rest)) : ∀ d ∈ ds, d < 10 := by
  induction t generalizing afterDigit ds with
  | nil =>
      simp only [leadingDigits?, Option.ite_none_right_eq_some, Option.some.injEq, Prod.mk.injEq] at h
      rw [← h.2.1]
      exact fun _ absent => absurd absent List.not_mem_nil
  | cons c r ih =>
      rw [leadingDigits?] at h
      cases digit : digitValue? c with
      | some d =>
          rw [digit] at h
          obtain ⟨⟨ds', rest'⟩, later, same⟩ := Option.map_eq_some_iff.mp h
          obtain ⟨rfl, rfl⟩ := Prod.mk.injEq .. ▸ same
          intro e member
          rcases List.mem_cons.mp member with rfl | behind
          · exact digitValue?_lt digit
          · exact ih later e behind
      | none =>
          rw [digit] at h
          dsimp only at h
          split at h
          · split at h
            · exact ih h
            · cases h
          · split at h
            · cases h
              exact fun _ absent => absurd absent List.not_mem_nil
            · cases h

/-- What is read has no more digits than are written. -/
theorem isShort_of_read {t : Text} {n : Int} (h : read t = .ok n) : IsShort n := by
  unfold read at h
  dsimp only at h
  split at h
  · cases h
  · rename_i ds rest leading
    split at h
    · cases h
    · rename_i fits
      have more : Nat.pow 10 ds.length ≤ Nat.pow 10 digitLimit := by
        apply Nat.pow_le_pow_right
        · decide
        · exact Nat.not_lt.mp fits
      have bound : ofDigits ds < Nat.pow 10 digitLimit :=
        Nat.lt_of_lt_of_le (ofDigits_lt (leadingDigits?_lt leading)) more
      split at h
      · cases h
        rw [IsShort]
        split
        · rw [Int.natAbs_neg, Int.natAbs_natCast]
          exact bound
        · rw [Int.natAbs_natCast]
          exact bound
      · cases h

theorem isShort_of_read? {t : Text} {n : Int} (h : read? t = some n) : IsShort n := by
  rw [read?] at h
  cases given : read t.strip with
  | error fault => rw [given] at h; cases h
  | ok m =>
      rw [given] at h
      cases h
      exact isShort_of_read given

theorem write_of_isShort {n : Int} (h : IsShort n) : write n = .ok (decimalInt n) := if_pos h

theorem write_eq_ok {n : Int} {t : Text} (h : write n = .ok t) : IsShort n ∧ t = decimalInt n := by
  obtain ⟨fits, rfl⟩ := guarded_eq_ok.mp h
  exact ⟨fits, rfl⟩

theorem writeAll_of_isShort {ns : List Int} (sep : Text) (h : ∀ n ∈ ns, IsShort n) :
    writeAll sep ns = .ok (Text.joined sep (ns.map decimalInt)) := by
  rw [writeAll, mapM_eq_ok fun n member => write_of_isShort (h n member)]
  rfl

end Integer

end Recurrence
