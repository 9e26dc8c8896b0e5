import Recurrence.Proofs.Pattern.Only

/-! The first outcome of a pattern at one place of a text, the text behind it included: a run takes
what it can, and a boundary looks at the characters on both sides. -/

namespace Recurrence.Pattern

variable {p q : Pattern} {ps : List Pattern} {test : Char → Bool} {a b : Place} {before : Option Char}
  {c : Char} {s t rest : Text} {groups : List (Nat × Text × Text)}

theorem takes_literal (same : t.map foldChar = s) : Takes (literal s) t := by
  have letters : SameWord s t := by
    subst same
    unfold SameWord
    rw [List.forall₂_map_left_iff, List.forall₂_same]
    intro c _
    rw [sameLetter, beq_self_eq_true]
    rfl
  exact (takesOnly_literal letters).takes

/-- What is optional and refuses is left out. -/
theorem Refuses.optional_seq (refuses : Refuses p c) (takes : Takes q (c :: t)) :
    Takes (Pattern.seq (optional p) q) (c :: t) := by
  intro before rest groups
  have stays : (optional p).outcomes ⟨before, c :: t ++ rest, groups⟩
      = [⟨before, c :: t ++ rest, groups⟩] := refuses.stays_optional before (t ++ rest) groups
  rw [outcomes_seq, stays, List.flatMap_singleton]
  exact takes before rest groups

theorem getLast?_cons_or (c : Char) (t : Text) (before : Option Char) :
    (c :: t).getLast?.or before = t.getLast?.or (some c) := by
  rw [List.getLast?_cons]
  cases t.getLast? <;> rfl

/-- A run takes every character up to the first that does not pass. -/
theorem head?_spans {places : List Place} (passes : ∀ c ∈ t, test c = true)
    (stop : ∀ c ∈ rest.head?, test c = false) :
    (spans test groups places before (t ++ rest)).head? = some ⟨t.getLast?.or before, rest, groups⟩ := by
  induction t generalizing places before with
  | nil =>
      cases rest with
      | nil => rfl
      | cons c r =>
          rw [List.nil_append, spans, stop c rfl]
          rfl
  | cons c t ih =>
      obtain ⟨first, others⟩ := List.forall_mem_cons.mp passes
      rw [List.cons_append, spans, if_pos first, ih others, getLast?_cons_or]

theorem head?_oneOrMore (nonempty : t ≠ []) (passes : ∀ c ∈ t, test c = true)
    (stop : ∀ c ∈ rest.head?, test c = false) :
    ((oneOrMore test).outcomes ⟨before, t ++ rest, groups⟩).head?
      = some ⟨t.getLast?.or before, rest, groups⟩ := by
  obtain ⟨c, t, rfl⟩ := List.exists_cons_of_ne_nil nonempty
  obtain ⟨first, others⟩ := List.forall_mem_cons.mp passes
  have one : ((char test).outcomes ⟨before, c :: (t ++ rest), groups⟩).head?
      = some ⟨some c, t ++ rest, groups⟩ := by
    rw [outcomes_char, if_pos first]
    rfl
  have more : ((zeroOrMore test).outcomes ⟨some c, t ++ rest, groups⟩).head?
      = some ⟨t.getLast?.or (some c), rest, groups⟩ := head?_spans others stop
  rw [List.cons_append, oneOrMore, head?_seq one more, getLast?_cons_or]

theorem head?_choice (first : (p.outcomes a).head? = some b) :
    ((choice (p :: ps)).outcomes a).head? = some b := by
  cases ps with
  | nil => exact first
  | cons q ps =>
      change ((alt p (choice (q :: ps))).outcomes a).head? = some b
      rw [outcomes_alt, List.head?_append, first]
      rfl

/-- A choice that refuses is passed over. -/
theorem Refuses.head?_choice (refuses : Refuses p c)
    (first : ((Pattern.choice (q :: ps)).outcomes ⟨before, c :: t, groups⟩).head? = some b) :
    ((Pattern.choice (p :: q :: ps)).outcomes ⟨before, c :: t, groups⟩).head? = some b := by
  change ((alt p (Pattern.choice (q :: ps))).outcomes ⟨before, c :: t, groups⟩).head? = some b
  rw [outcomes_alt, refuses before t groups, List.nil_append]
  exact first

theorem head?_group (first : (p.outcomes a).head? = some b) (index : Nat) :
    ((group index p).outcomes a).head?
      = some { b with groups := (index, a.rest, b.rest) :: b.groups } := by
  rw [outcomes_group, List.head?_map, first]
  rfl

theorem head?_boundary (edge : (a.before.any isWordChar != a.rest.head?.any isWordChar) = true) :
    (boundary.outcomes a).head? = some a := by
  rw [outcomes, if_pos edge]
  rfl

/-- A pattern that has an outcome at the beginning is found there. -/
theorem find?_of_head? (first : (p.outcomes ⟨none, t, []⟩).head? = some b) : p.find? t = some b := by
  cases t with
  | nil => exact first
  | cons c t => rw [find?, search, first]

end Recurrence.Pattern
