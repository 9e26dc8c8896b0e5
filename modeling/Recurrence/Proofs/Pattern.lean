import Recurrence.Pattern

/-! What a pattern takes from the front of a text when nothing is asked of the text behind. The
first outcome counts, so a pattern that takes a text is found with it whatever follows. Of the other
outcomes it is known which groups they keep. -/

namespace Recurrence.Pattern

/-- In front of every rest the first outcome is the place behind the text. -/
def Takes (p : Pattern) (t : Text) : Prop :=
  ∀ before rest groups,
    (p.outcomes ⟨before, t ++ rest, groups⟩).head? = some ⟨t.getLast?.or before, rest, groups⟩

/-- The pattern has no outcome at a text that begins so. -/
def Refuses (p : Pattern) (c : Char) : Prop :=
  ∀ before rest groups, p.outcomes ⟨before, c :: rest, groups⟩ = []

variable {p q : Pattern} {ps : List Pattern} {test : Char → Bool} {c : Char} {s t : Text}

theorem outcomes_char (before : Option Char) (groups : List (Nat × Text × Text)) :
    (char test).outcomes ⟨before, c :: t, groups⟩ = if test c then [⟨some c, t, groups⟩] else [] := rfl

theorem outcomes_seq (a : Place) : (seq p q).outcomes a = (p.outcomes a).flatMap q.outcomes := rfl

theorem outcomes_alt (a : Place) : (alt p q).outcomes a = p.outcomes a ++ q.outcomes a := rfl

theorem outcomes_group (index : Nat) (a : Place) : (group index p).outcomes a
    = (p.outcomes a).map fun b => { b with groups := (index, a.rest, b.rest) :: b.groups } := rfl

theorem takes_empty : Takes empty [] := fun _ _ _ => rfl

theorem takes_char (h : test c = true) : Takes (char test) [c] := by
  intro before rest groups
  rw [List.singleton_append, outcomes_char, if_pos h]
  rfl

theorem refuses_char (h : test c = false) : Refuses (char test) c := by
  intro before rest groups
  rw [outcomes_char, h, if_neg Bool.false_ne_true]

/-- The first outcome of a sequence goes through the first outcome of its first part. -/
theorem head?_seq {a b d : Place} (first : (p.outcomes a).head? = some b)
    (second : (q.outcomes b).head? = some d) : ((seq p q).outcomes a).head? = some d := by
  rw [outcomes_seq]
  cases all : p.outcomes a with
  | nil =>
      rw [all] at first
      cases first
  | cons b' more =>
      rw [all] at first
      cases first
      rw [List.flatMap_cons, List.head?_append, second]
      rfl

theorem Takes.seq (hp : Takes p s) (hq : Takes q t) : Takes (seq p q) (s ++ t) := by
  intro before rest groups
  have both := head?_seq (hp before (t ++ rest) groups) (hq (s.getLast?.or before) rest groups)
  rw [List.append_assoc, both, List.getLast?_append, Option.or_assoc]

theorem Refuses.seq (h : Refuses p c) : Refuses (Pattern.seq p q) c := by
  intro before rest groups
  rw [outcomes_seq, h before rest groups, List.flatMap_nil]

theorem Takes.sequence (hp : Takes p s) (hq : Takes (sequence ps) t) :
    Takes (sequence (p :: ps)) (s ++ t) := hp.seq hq

theorem Refuses.sequence (h : Refuses p c) : Refuses (Pattern.sequence (p :: ps)) c := h.seq

theorem takes_letter {letter : Char} (h : sameLetter letter c = true) : Takes (literal [letter]) [c] :=
  (takes_char h).seq takes_empty

theorem refuses_letter {letter : Char} (h : sameLetter letter c = false) : Refuses (literal [letter]) c :=
  (refuses_char h).seq

/-- Two patterns of one character each. -/
theorem Takes.pair {d : Char} (hp : Takes p [c]) (hq : Takes q [d]) :
    Takes (Pattern.sequence [p, q]) [c, d] :=
  hp.sequence (hq.sequence takes_empty)

/-- The first choice that takes the text is the one that counts. -/
theorem Takes.choice (h : Takes p t) : Takes (choice (p :: ps)) t := by
  cases ps with
  | nil => exact h
  | cons q ps =>
      intro before rest groups
      rw [Pattern.choice, outcomes_alt, List.head?_append, h before rest groups]
      rfl
      exact nofun

/-- A choice that refuses is passed over. -/
theorem Refuses.choice (h : Refuses p c) (later : Takes (Pattern.choice (q :: ps)) (c :: t)) :
    Takes (Pattern.choice (p :: q :: ps)) (c :: t) := by
  intro before rest groups
  have none : p.outcomes ⟨before, c :: t ++ rest, groups⟩ = [] := h before (t ++ rest) groups
  rw [Pattern.choice, outcomes_alt, none, List.nil_append]
  · exact later before rest groups
  · exact nofun

/-- A group keeps the text it takes. -/
theorem Takes.group (h : Takes p t) (index : Nat) (before : Option Char) (rest : Text)
    (groups : List (Nat × Text × Text)) :
    ((Pattern.group index p).outcomes ⟨before, t ++ rest, groups⟩).head?
      = some ⟨t.getLast?.or before, rest, (index, t ++ rest, rest) :: groups⟩ := by
  rw [outcomes_group, List.head?_map, h before rest groups]
  rfl

/-! What an outcome keeps of the place it was reached from. -/

/-- The numbers of the groups in a pattern. -/
def indices : Pattern → List Nat
  | seq first second | alt first second => first.indices ++ second.indices
  | group index part => index :: part.indices
  | notAhead part => part.indices
  | _ => []

theorem of_mem_outcomes_char {a b : Place} (reached : b ∈ (char test).outcomes a) :
    (∃ c, a.rest = c :: b.rest ∧ test c = true) ∧ b.groups = a.groups := by
  rw [outcomes] at reached
  split at reached
  · rename_i c rest here
    split at reached
    · rename_i passes
      rw [List.mem_singleton.mp reached]
      exact ⟨⟨c, here, passes⟩, rfl⟩
    · cases reached
  · cases reached

/-- So many characters in a row pass the test where a sequence of as many patterns gets through. -/
theorem of_mem_outcomes_replicate {n : Nat} {a b : Place}
    (reached : b ∈ (sequence (List.replicate n (char test))).outcomes a) :
    (∃ t, a.rest = t ++ b.rest ∧ t.length = n ∧ ∀ c ∈ t, test c = true) ∧ b.groups = a.groups := by
  induction n generalizing a with
  | zero =>
      rw [List.mem_singleton.mp reached]
      exact ⟨⟨[], rfl, rfl, fun _ absent => absurd absent List.not_mem_nil⟩, rfl⟩
  | succ n ih =>
      obtain ⟨between, first, later⟩ := List.mem_flatMap.mp reached
      obtain ⟨⟨c, front, passes⟩, same⟩ := of_mem_outcomes_char first
      obtain ⟨⟨t, rest, length, all⟩, kept⟩ := ih later
      refine ⟨⟨c :: t, ?_, congrArg Nat.succ length, ?_⟩, kept.trans same⟩
      · rw [front, rest]
        rfl
      · intro d member
        rcases List.mem_cons.mp member with rfl | behind
        · exact passes
        · exact all d behind

theorem groups_of_mem_spans {groups : List (Nat × Text × Text)}
    {places : List Place} {before : Option Char} {b : Place}
    (h : ∀ p ∈ places, p.groups = groups) (reached : b ∈ spans test groups places before t) :
    b.groups = groups := by
  induction t generalizing places before with
  | nil =>
      rcases List.mem_cons.mp reached with rfl | found
      · rfl
      · exact h b found
  | cons c t ih =>
      have more : ∀ p ∈ (⟨before, c :: t, groups⟩ : Place) :: places, p.groups = groups := by
        intro p member
        rcases List.mem_cons.mp member with rfl | found
        · rfl
        · exact h p found
      rw [spans] at reached
      split at reached
      · exact ih more reached
      · exact more b reached

/-- A pattern keeps the groups that are not its own. -/
theorem group?_of_mem_outcomes {index : Nat} (absent : index ∉ p.indices) {a b : Place}
    (reached : b ∈ p.outcomes a) : b.group? index = a.group? index := by
  induction p generalizing a b with
  | char test =>
      rw [Place.group?, Place.group?, (of_mem_outcomes_char reached).2]
  | zeroOrMore test =>
      have groups := groups_of_mem_spans (fun _ absent => absurd absent List.not_mem_nil) reached
      rw [Place.group?, Place.group?, groups]
  | empty => rw [List.mem_singleton.mp reached]
  | seq p q ihp ihq =>
      rw [indices, List.mem_append, not_or] at absent
      obtain ⟨between, first, second⟩ := List.mem_flatMap.mp reached
      exact (ihq absent.2 second).trans (ihp absent.1 first)
  | alt p q ihp ihq =>
      rw [indices, List.mem_append, not_or] at absent
      rcases List.mem_append.mp reached with first | second
      · exact ihp absent.1 first
      · exact ihq absent.2 second
  | group i p ih =>
      rw [indices, List.mem_cons, not_or] at absent
      obtain ⟨between, inside, rfl⟩ := List.mem_map.mp reached
      rw [← ih absent.2 inside, Place.group?, Place.group?, List.find?_cons,
        beq_false_of_ne (Ne.symm absent.1)]
  | notAhead p ih =>
      rw [outcomes] at reached
      split at reached
      · rw [List.mem_singleton.mp reached]
      · cases reached
  | notBehind test =>
      rw [outcomes] at reached
      split at reached
      · cases reached
      · rw [List.mem_singleton.mp reached]
  | boundary =>
      rw [outcomes] at reached
      split at reached
      · rw [List.mem_singleton.mp reached]
      · cases reached

end Recurrence.Pattern
