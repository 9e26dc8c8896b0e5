import Recurrence.Text.Blank
import Recurrence.Text.Case

/-! Cutting undoes joining where the parts are free of the separator, and text without blanks or
small letters is left as it is by stripping and by capitals. -/

namespace Recurrence

/-! A text is gone through to test its characters, not all characters there are. -/

instance (p : Char → Prop) [DecidablePred p] (t : Text) : Decidable (∀ c ∈ t, p c) :=
  List.decidableBAll p t

instance (p : Char → Prop) [DecidablePred p] (t : Text) : Decidable (∃ c ∈ t, p c) :=
  List.decidableBEx p t

theorem ne_of_test {test : Char → Bool} {c d : Char} (passes : test c = true)
    (fails : test d = false) : c ≠ d := by
  rintro rfl
  rw [passes] at fails
  cases fails

/-- No printing character of ASCII is blank. -/
theorem isBlank_of_printing {c : Char} (low : 33 ≤ c.toNat) (high : c.toNat ≤ 126) :
    isBlank c = false := by
  simp only [isBlank, inRanges, blankRanges, List.any_cons, List.any_nil, Bool.or_false,
    Bool.or_eq_false_iff, Bool.and_eq_false_iff, decide_eq_false_iff_not]
  omega

theorem toUpper_eq_self {c : Char} (h : c.toNat < 97) : c.toUpper = c := by
  unfold Char.toUpper
  split
  · rename_i small
    have low : (97 : UInt32) ≤ c.val := small.1
    rw [UInt32.le_iff_toNat_le] at low
    exact absurd low (Nat.not_le_of_lt h)
  · rfl

namespace Text

theorem joined_cons_cons (sep a b : Text) (rest : List Text) :
    joined sep (a :: b :: rest) = a ++ (sep ++ joined sep (b :: rest)) := by
  simp only [joined, List.intercalate, List.intersperse, List.flatten_cons]

theorem joined_singleton (sep a : Text) : joined sep [a] = a := by
  simp only [joined, List.intercalate, List.intersperse, List.flatten_cons, List.flatten_nil,
    List.append_nil]

theorem pieces_eq_self {sep : Char} {t : Text} (h : sep ∉ t) : pieces sep t = [t] := by
  induction t with
  | nil => rfl
  | cons c r ih =>
      have other : c ≠ sep := fun same => h (same ▸ List.mem_cons_self)
      rw [pieces, if_neg other, ih fun later => h (List.mem_cons_of_mem c later)]

theorem pieces_append {sep : Char} {t : Text} (rest : Text) (h : sep ∉ t) :
    pieces sep (t ++ sep :: rest) = t :: pieces sep rest := by
  induction t with
  | nil => simp only [List.nil_append, pieces, if_true]
  | cons c r ih =>
      have other : c ≠ sep := fun same => h (same ▸ List.mem_cons_self)
      rw [List.cons_append, pieces, if_neg other, ih fun later => h (List.mem_cons_of_mem c later)]

/-- The pieces of joined parts are the parts. -/
theorem pieces_joined {sep : Char} {parts : List Text} (nonempty : parts ≠ [])
    (h : ∀ p ∈ parts, sep ∉ p) : pieces sep (joined [sep] parts) = parts := by
  induction parts with
  | nil => exact absurd rfl nonempty
  | cons p rest ih =>
      cases rest with
      | nil => rw [joined_singleton, pieces_eq_self (h p List.mem_cons_self)]
      | cons q rest =>
          rw [joined_cons_cons, List.singleton_append, pieces_append _ (h p List.mem_cons_self),
            ih (List.cons_ne_nil q rest) fun p' later => h p' (List.mem_cons_of_mem p later)]

theorem mem_joined {sep c : Char} {parts : List Text} (h : c ∈ joined [sep] parts) :
    c = sep ∨ ∃ p ∈ parts, c ∈ p := by
  induction parts with
  | nil => cases h
  | cons p rest ih =>
      cases rest with
      | nil =>
          rw [joined_singleton] at h
          exact .inr ⟨p, List.mem_cons_self, h⟩
      | cons q rest =>
          rw [joined_cons_cons, List.singleton_append, List.mem_append, List.mem_cons] at h
          rcases h with here | same | later
          · exact .inr ⟨p, List.mem_cons_self, here⟩
          · exact .inl same
          · rcases ih later with same | ⟨p', member, inside⟩
            · exact .inl same
            · exact .inr ⟨p', List.mem_cons_of_mem p member, inside⟩

theorem mem_joined_of_mem {sep part : Text} {c : Char} {parts : List Text} (among : part ∈ parts)
    (inside : c ∈ part) : c ∈ joined sep parts := by
  induction parts with
  | nil => cases among
  | cons p rest ih =>
      cases rest with
      | nil =>
          rw [joined_singleton, ← List.mem_singleton.mp among]
          exact inside
      | cons q rest =>
          rw [joined_cons_cons, List.mem_append, List.mem_append]
          rcases List.mem_cons.mp among with rfl | later
          · exact .inl inside
          · exact .inr (.inr (ih later))

theorem cut?_append {sep : Char} {t : Text} (rest : Text) (h : sep ∉ t) :
    cut? sep (t ++ sep :: rest) = some (t, rest) := by
  induction t with
  | nil => simp only [List.nil_append, cut?, if_true]
  | cons c r ih =>
      have other : c ≠ sep := fun same => h (same ▸ List.mem_cons_self)
      rw [List.cons_append, cut?, if_neg other, ih fun later => h (List.mem_cons_of_mem c later)]
      rfl

/-- A text has one first separator. -/
theorem eq_of_append_cons {sep : Char} {a b a' b' : Text} (first : sep ∉ a) (first' : sep ∉ a')
    (same : a ++ sep :: b = a' ++ sep :: b') : a = a' ∧ b = b' := by
  have cut : some (a, b) = some (a', b') := by
    rw [← cut?_append b first, same, cut?_append b' first']
  cases cut
  exact ⟨rfl, rfl⟩

theorem cut?_eq_none {sep : Char} {t : Text} (h : sep ∉ t) : cut? sep t = none := by
  induction t with
  | nil => rfl
  | cons c r ih =>
      have other : c ≠ sep := fun same => h (same ▸ List.mem_cons_self)
      rw [cut?, if_neg other, ih fun later => h (List.mem_cons_of_mem c later)]
      rfl

theorem dropWhile_eq_self {p : Char → Bool} {t : Text} (h : ∀ c ∈ t, p c = false) :
    t.dropWhile p = t := by
  cases t with
  | nil => rfl
  | cons c r => rw [List.dropWhile_cons, h c List.mem_cons_self, if_neg Bool.false_ne_true]

theorem trimBoth_eq_self {p : Char → Bool} {t : Text} (h : ∀ c ∈ t, p c = false) :
    t.trimBoth p = t := by
  have backwards : ∀ c ∈ t.reverse, p c = false := fun c member => h c (List.mem_reverse.mp member)
  rw [trimBoth, dropWhile_eq_self h, trimRight, dropWhile_eq_self backwards, List.reverse_reverse]

theorem strip_eq_self {t : Text} (h : ∀ c ∈ t, isBlank c = false) : t.strip = t :=
  trimBoth_eq_self h

theorem upper_eq_self {t : Text} (h : ∀ c ∈ t, c.toNat < 97) : t.upper = t := by
  induction t with
  | nil => rfl
  | cons c r ih =>
      have bound := h c List.mem_cons_self
      have ascii : c.toNat < 128 := by omega
      rw [upper, List.flatMap_cons, upperChar, if_pos ascii, toUpper_eq_self bound,
        List.singleton_append]
      exact congrArg (c :: ·) (ih fun d later => h d (List.mem_cons_of_mem c later))

end Text

end Recurrence
