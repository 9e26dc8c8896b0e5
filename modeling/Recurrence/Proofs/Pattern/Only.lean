import Recurrence.Proofs.Pattern.Captured

/-! Patterns that leave no choice: one outcome and no other, so that what stands behind such a
pattern decides alone. A run that must not go on is one of them, as long as it may be. -/

namespace Recurrence.Pattern

/-- In front of every rest the place behind the text is the one outcome. -/
def TakesOnly (p : Pattern) (t : Text) : Prop :=
  ∀ before rest groups,
    p.outcomes ⟨before, t ++ rest, groups⟩ = [⟨t.getLast?.or before, rest, groups⟩]

/-- The pattern takes nothing from a text that begins so. -/
def Stays (p : Pattern) (c : Char) : Prop :=
  ∀ before rest groups, p.outcomes ⟨before, c :: rest, groups⟩ = [⟨before, c :: rest, groups⟩]

variable {p q : Pattern} {ps : List Pattern} {test : Char → Bool} {a b : Place} {c : Char} {s t : Text}

theorem Refuses.outcomes_eq_nil (refuses : Refuses p c) (front : a.rest = c :: t) :
    p.outcomes a = [] := by
  obtain ⟨before, rest, groups⟩ := a
  obtain rfl : rest = c :: t := front
  exact refuses before t groups

theorem TakesOnly.takes (only : TakesOnly p t) : Takes p t := by
  intro before rest groups
  rw [only before rest groups]
  rfl

theorem takesOnly_empty : TakesOnly empty [] := fun _ _ _ => rfl

theorem takesOnly_char (passes : test c = true) : TakesOnly (char test) [c] := by
  intro before rest groups
  rw [List.singleton_append, outcomes_char, if_pos passes]
  rfl

theorem TakesOnly.seq (first : TakesOnly p s) (second : TakesOnly q t) :
    TakesOnly (Pattern.seq p q) (s ++ t) := by
  intro before rest groups
  rw [List.append_assoc, outcomes_seq, first before (t ++ rest) groups, List.flatMap_singleton,
    second _ rest groups, List.getLast?_append, Option.or_assoc]

theorem takesOnly_literal (same : SameWord s t) : TakesOnly (literal s) t := by
  unfold SameWord at same
  induction same with
  | nil => exact takesOnly_empty
  | cons letter _ ih => exact (takesOnly_char letter).seq ih

theorem TakesOnly.alone (only : TakesOnly p t) : TakesOnly (sequence [p]) t := by
  have whole := only.seq takesOnly_empty
  rwa [List.append_nil] at whole

theorem TakesOnly.or_refuses (only : TakesOnly p (c :: t)) (refuses : Refuses q c) :
    TakesOnly (alt p q) (c :: t) := by
  intro before rest groups
  have absent : q.outcomes ⟨before, c :: t ++ rest, groups⟩ = [] := refuses before (t ++ rest) groups
  rw [outcomes_alt, only before rest groups, absent, List.append_nil]

theorem Refuses.or_takesOnly (refuses : Refuses p c) (only : TakesOnly q (c :: t)) :
    TakesOnly (alt p q) (c :: t) := by
  intro before rest groups
  have absent : p.outcomes ⟨before, c :: t ++ rest, groups⟩ = [] := refuses before (t ++ rest) groups
  rw [outcomes_alt, only before rest groups, absent, List.nil_append]

/-- What is optional is taken where the pattern behind it cannot do without. -/
theorem TakesOnly.optional_seq (first : TakesOnly p (c :: s)) (second : TakesOnly q t)
    (refuses : Refuses q c) : TakesOnly (Pattern.seq (optional p) q) (c :: s ++ t) := by
  intro before rest groups
  have skipped : q.outcomes ⟨before, c :: s ++ (t ++ rest), groups⟩ = [] :=
    refuses before (s ++ (t ++ rest)) groups
  have behind := (first.seq second) before rest groups
  rw [outcomes_seq, List.append_assoc] at behind
  rw [outcomes_seq, optional, outcomes_alt, List.flatMap_append, List.append_assoc, behind, outcomes,
    List.flatMap_singleton, skipped, List.append_nil]

theorem stays_zeroOrMore (stop : test c = false) : Stays (zeroOrMore test) c := by
  intro before rest groups
  rw [outcomes, spans, stop]
  rfl

theorem Refuses.stays_optional (refuses : Refuses p c) : Stays (optional p) c := by
  intro before rest groups
  rw [optional, outcomes_alt, refuses before rest groups]
  rfl

theorem outcomes_notAhead_of_eq_nil (absent : p.outcomes a = []) : (notAhead p).outcomes a = [a] := by
  rw [outcomes, absent]
  rfl

theorem Refuses.stays_notAhead (refuses : Refuses p c) : Stays (notAhead p) c :=
  fun before rest groups => outcomes_notAhead_of_eq_nil (refuses before rest groups)

theorem Stays.head? (stays : Stays p c) (before : Option Char) (t : Text)
    (groups : List (Nat × Text × Text)) :
    (p.outcomes ⟨before, c :: t, groups⟩).head? = some ⟨before, c :: t, groups⟩ := by
  rw [stays before t groups]
  rfl

theorem Stays.alone (stays : Stays p c) : Stays (sequence [p]) c := by
  intro before rest groups
  change (p.outcomes _).flatMap empty.outcomes = _
  rw [stays before rest groups]
  rfl

theorem Stays.seq_takesOnly (stays : Stays p c) (only : TakesOnly q (c :: t)) :
    TakesOnly (Pattern.seq p q) (c :: t) := by
  intro before rest groups
  have here : p.outcomes ⟨before, c :: t ++ rest, groups⟩ = [⟨before, c :: t ++ rest, groups⟩] :=
    stays before (t ++ rest) groups
  rw [outcomes_seq, here, List.flatMap_singleton, only before rest groups]

theorem Stays.seq (first : Stays p c) (second : Stays q c) : Stays (Pattern.seq p q) c := by
  intro before rest groups
  rw [outcomes_seq, first before rest groups, List.flatMap_singleton, second before rest groups]

theorem Stays.refuses_seq (stays : Stays p c) (refuses : Refuses q c) :
    Refuses (Pattern.seq p q) c := by
  intro before rest groups
  rw [outcomes_seq, stays before rest groups, List.flatMap_singleton, refuses before rest groups]

theorem outcomes_notAhead_of_head? (first : (p.outcomes a).head? = some b) :
    (notAhead p).outcomes a = [] := by
  have some : p.outcomes a ≠ [] := by
    intro absent
    rw [absent] at first
    cases first
  rw [outcomes, List.isEmpty_eq_false_iff.mpr some]
  rfl

theorem TakesOnly.refuses_notAhead (only : TakesOnly p [c]) : Refuses (notAhead p) c :=
  fun before rest groups => outcomes_notAhead_of_head? (only.takes before rest groups)

theorem of_mem_outcomes_notAhead (reached : b ∈ (notAhead p).outcomes a) :
    b = a ∧ p.outcomes a = [] := by
  rw [outcomes] at reached
  split at reached
  · rename_i absent
    exact ⟨List.mem_singleton.mp reached, List.isEmpty_iff.mp absent⟩
  · cases reached

theorem outcomes_sequence_append (ps qs : List Pattern) (a : Place) :
    (sequence (ps ++ qs)).outcomes a
      = ((sequence ps).outcomes a).flatMap (sequence qs).outcomes := by
  induction ps generalizing a with
  | nil =>
      change _ = [a].flatMap _
      rw [List.flatMap_singleton]
      rfl
  | cons p ps ih =>
      change (p.outcomes a).flatMap (sequence (ps ++ qs)).outcomes
        = ((p.outcomes a).flatMap (sequence ps).outcomes).flatMap _
      rw [List.flatMap_assoc]
      exact congrArg (List.flatMap · (p.outcomes a)) (funext ih)

/-- Behind a front that leaves no choice the other patterns decide. -/
theorem TakesOnly.outcomes_append (only : TakesOnly (sequence ps) s) (qs : List Pattern)
    (before : Option Char) (t : Text) (groups : List (Nat × Text × Text)) :
    (sequence (ps ++ qs)).outcomes ⟨before, s ++ t, groups⟩
      = (sequence qs).outcomes ⟨s.getLast?.or before, t, groups⟩ := by
  rw [outcomes_sequence_append, only before t groups, List.flatMap_singleton]

/-- A run that nothing of its kind may follow ends where the characters of its kind end. -/
theorem of_mem_outcomes_maximal
    (run : ∀ t, (sequence ps).Admits t → t ≠ [] ∧ ∀ c ∈ t, test c = true)
    (reached : b ∈ (sequence (ps ++ [notAhead (char test)])).outcomes a) :
    (∃ c ∈ a.rest.head?, test c = true) ∧ b.rest = a.rest.dropWhile test := by
  rw [outcomes_sequence_append] at reached
  obtain ⟨between, front, last⟩ := List.mem_flatMap.mp reached
  obtain ⟨b', stop, last⟩ := List.mem_flatMap.mp last
  obtain rfl := List.mem_singleton.mp last
  obtain ⟨rfl, absent⟩ := of_mem_outcomes_notAhead stop
  obtain ⟨taken, new, way⟩ := exists_way front
  obtain ⟨nonempty, passes⟩ := run taken way.admits
  have ends : b.rest.dropWhile test = b.rest := by
    cases rest : b.rest with
    | nil => rfl
    | cons c t =>
        rw [outcomes, rest] at absent
        dsimp only at absent
        split at absent
        · cases absent
        · rename_i other
          exact List.dropWhile_cons_of_neg other
  constructor
  · obtain ⟨c, t, rfl⟩ := List.exists_cons_of_ne_nil nonempty
    rw [way.rest]
    exact ⟨c, rfl, passes c List.mem_cons_self⟩
  · rw [way.rest, List.dropWhile_append_of_pos passes, ends]

/-- Where nothing is found at the first place, the others are left. -/
theorem find?_cons_eq_none (here : p.outcomes ⟨none, c :: t, []⟩ = [])
    (later : p.search (some c) t = none) : p.find? (c :: t) = none := by
  rw [find?, search, here]
  exact later

end Recurrence.Pattern
