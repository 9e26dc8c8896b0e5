import Mathlib.Data.List.Forall2
import Recurrence.Proofs.Pattern

/-! What the groups of a match hold. A pattern is read as a set of texts, with what stands around
them left aside: the way to an outcome takes such a text, and every group kept on the way holds a
text of the pattern inside the group. -/

namespace Recurrence.Pattern

/-- The texts a pattern can take, whatever stands around them. -/
def Admits : Pattern → Text → Prop
  | char test, t => ∃ c, t = [c] ∧ test c = true
  | zeroOrMore test, t => ∀ c ∈ t, test c = true
  | empty, t | notAhead _, t | notBehind _, t | boundary, t => t = []
  | seq first second, t => ∃ u v, t = u ++ v ∧ first.Admits u ∧ second.Admits v
  | alt first second, t => first.Admits t ∨ second.Admits t
  | group _ part, t => part.Admits t

/-- The groups a match can go through, each with the pattern inside it. -/
def parts : Pattern → List (Nat × Pattern)
  | seq first second | alt first second => first.parts ++ second.parts
  | group index part => (index, part) :: part.parts
  | _ => []

/-- Every match goes through a group. -/
def captures : Pattern → Bool
  | seq first second => first.captures || second.captures
  | alt first second => first.captures && second.captures
  | group _ _ => true
  | _ => false

/-- A group kept from a text on holds a piece of that text that the inside of the group admits. -/
def Keeps (p : Pattern) (rest : Text) (g : Nat × Text × Text) : Prop :=
  ∃ part t, (g.1, part) ∈ p.parts ∧ part.Admits t ∧ g.2.1 = t ++ g.2.2 ∧ g.2.1 <:+ rest

/-- The way from a place to an outcome: the text taken and the groups kept. -/
structure Way (p : Pattern) (a b : Place) (taken : Text) (new : List (Nat × Text × Text)) : Prop where
  rest : a.rest = taken ++ b.rest
  admits : p.Admits taken
  groups : b.groups = new ++ a.groups
  keeps : ∀ g ∈ new, p.Keeps a.rest g
  captures : p.captures = true → new ≠ []

variable {p q : Pattern} {ps : List Pattern} {test : Char → Bool} {a b d : Place} {s t u v : Text}
  {new more : List (Nat × Text × Text)} {g : Nat × Text × Text} {index : Nat}

theorem rest_of_mem_spans {groups : List (Nat × Text × Text)} {places : List Place}
    {before : Option Char} (reached : b ∈ spans test groups places before t) :
    b ∈ places ∨ ∃ u, t = u ++ b.rest ∧ ∀ c ∈ u, test c = true := by
  have here : ∃ u, t = u ++ t ∧ ∀ c ∈ u, test c = true :=
    ⟨[], rfl, fun _ absent => absurd absent List.not_mem_nil⟩
  induction t generalizing places before with
  | nil =>
      rcases List.mem_cons.mp reached with rfl | found
      · exact .inr here
      · exact .inl found
  | cons c t ih =>
      rw [spans] at reached
      split at reached
      · rename_i passes
        rcases ih reached ⟨[], rfl, fun _ absent => absurd absent List.not_mem_nil⟩ with found | later
        · rcases List.mem_cons.mp found with rfl | earlier
          · exact .inr here
          · exact .inl earlier
        · obtain ⟨u, rest, all⟩ := later
          exact .inr ⟨c :: u, congrArg (c :: ·) rest, List.forall_mem_cons.mpr ⟨passes, all⟩⟩
      · rcases List.mem_cons.mp reached with rfl | found
        · exact .inr here
        · exact .inl found

/-- An outcome at the place itself, with no group kept. -/
theorem Way.stay (admits : p.Admits []) (none : p.captures = false) : p.Way a a [] [] where
  rest := rfl
  admits := admits
  groups := rfl
  keeps := fun _ absent => absurd absent List.not_mem_nil
  captures := fun every => absurd every (none ▸ Bool.false_ne_true)

theorem Keeps.mono (kept : p.Keeps s g) (sub : ∀ e ∈ p.parts, e ∈ q.parts) (suffix : s <:+ t) :
    q.Keeps t g := by
  obtain ⟨part, u, member, admits, front, within⟩ := kept
  exact ⟨part, u, sub _ member, admits, front, within.trans suffix⟩

theorem Way.seq (first : p.Way a b u new) (second : q.Way b d v more) :
    (Pattern.seq p q).Way a d (u ++ v) (more ++ new) where
  rest := by rw [first.rest, second.rest, List.append_assoc]
  admits := ⟨u, v, rfl, first.admits, second.admits⟩
  groups := by rw [second.groups, first.groups, List.append_assoc]
  keeps := by
    intro g member
    have behind : b.rest <:+ a.rest := ⟨u, first.rest.symm⟩
    rcases List.mem_append.mp member with later | earlier
    · exact (second.keeps g later).mono (fun e => List.mem_append_right p.parts) behind
    · exact (first.keeps g earlier).mono (fun e => List.mem_append_left q.parts) List.suffix_rfl
  captures := by
    intro every nothing
    obtain ⟨noMore, noNew⟩ := List.append_eq_nil_iff.mp nothing
    rcases Bool.or_eq_true_iff.mp every with one | two
    · exact first.captures one noNew
    · exact second.captures two noMore

theorem Way.left (way : p.Way a b u new) : (Pattern.alt p q).Way a b u new where
  rest := way.rest
  admits := .inl way.admits
  groups := way.groups
  keeps := fun g member =>
    (way.keeps g member).mono (fun _ => List.mem_append_left q.parts) List.suffix_rfl
  captures := fun every => way.captures (Bool.and_eq_true_iff.mp every).1

theorem Way.right (way : q.Way a b u new) : (Pattern.alt p q).Way a b u new where
  rest := way.rest
  admits := .inr way.admits
  groups := way.groups
  keeps := fun g member =>
    (way.keeps g member).mono (fun _ => List.mem_append_right p.parts) List.suffix_rfl
  captures := fun every => way.captures (Bool.and_eq_true_iff.mp every).2

theorem Way.group (way : p.Way a b u new) (index : Nat) :
    (Pattern.group index p).Way a { b with groups := (index, a.rest, b.rest) :: b.groups } u
      ((index, a.rest, b.rest) :: new) where
  rest := way.rest
  admits := way.admits
  groups := congrArg ((index, a.rest, b.rest) :: ·) way.groups
  keeps := by
    intro g member
    rcases List.mem_cons.mp member with rfl | inside
    · exact ⟨p, u, List.mem_cons_self, way.admits, way.rest, List.suffix_rfl⟩
    · exact (way.keeps g inside).mono (fun _ => List.mem_cons_of_mem _) List.suffix_rfl
  captures := fun _ => List.cons_ne_nil _ _

/-- Every outcome is reached in a way the pattern admits. -/
theorem exists_way (reached : b ∈ p.outcomes a) : ∃ taken new, p.Way a b taken new := by
  induction p generalizing a b with
  | char test =>
      obtain ⟨⟨c, front, passes⟩, same⟩ := of_mem_outcomes_char reached
      exact ⟨[c], [], front, ⟨c, rfl, passes⟩, same, fun _ absent => absurd absent List.not_mem_nil,
        nofun⟩
  | zeroOrMore test =>
      have same := groups_of_mem_spans (fun _ absent => absurd absent List.not_mem_nil) reached
      rcases rest_of_mem_spans reached with absent | ⟨taken, rest, all⟩
      · exact absurd absent List.not_mem_nil
      · exact ⟨taken, [], rest, all, same, fun _ absent => absurd absent List.not_mem_nil, nofun⟩
  | empty =>
      rw [List.mem_singleton.mp reached]
      exact ⟨[], [], .stay rfl rfl⟩
  | seq p q ihp ihq =>
      obtain ⟨between, first, second⟩ := List.mem_flatMap.mp reached
      obtain ⟨u, new, one⟩ := ihp first
      obtain ⟨v, more, two⟩ := ihq second
      exact ⟨u ++ v, more ++ new, one.seq two⟩
  | alt p q ihp ihq =>
      rcases List.mem_append.mp reached with first | second
      · obtain ⟨u, new, way⟩ := ihp first
        exact ⟨u, new, way.left⟩
      · obtain ⟨u, new, way⟩ := ihq second
        exact ⟨u, new, way.right⟩
  | group index p ih =>
      obtain ⟨between, inside, rfl⟩ := List.mem_map.mp reached
      obtain ⟨u, new, way⟩ := ih inside
      exact ⟨u, _, way.group index⟩
  | notAhead p ih =>
      rw [outcomes] at reached
      split at reached
      · rw [List.mem_singleton.mp reached]
        exact ⟨[], [], .stay rfl rfl⟩
      · cases reached
  | notBehind test =>
      rw [outcomes] at reached
      split at reached
      · cases reached
      · rw [List.mem_singleton.mp reached]
        exact ⟨[], [], .stay rfl rfl⟩
  | boundary =>
      rw [outcomes] at reached
      split at reached
      · rw [List.mem_singleton.mp reached]
        exact ⟨[], [], .stay rfl rfl⟩
      · cases reached

theorem exists_of_search {before : Option Char} (found : p.search before t = some b) :
    ∃ a, a.groups = [] ∧ a.rest <:+ t ∧ b ∈ p.outcomes a := by
  induction t generalizing before with
  | nil =>
      rw [search] at found
      exact ⟨_, rfl, List.suffix_rfl, List.mem_of_mem_head? found⟩
  | cons c r ih =>
      rw [search] at found
      split at found
      · rename_i place first
        cases found
        exact ⟨_, rfl, List.suffix_rfl, List.mem_of_mem_head? first⟩
      · obtain ⟨a, fresh, suffix, reached⟩ := ih found
        exact ⟨a, fresh, suffix.trans (List.suffix_cons c r), reached⟩

/-- The groups of a match are pieces of the text, and there is one if every match has one. -/
theorem groups_of_find? (found : p.find? t = some b) :
    (∀ g ∈ b.groups, p.Keeps t g) ∧ (p.captures = true → b.groups ≠ []) := by
  obtain ⟨a, fresh, suffix, reached⟩ := exists_of_search found
  obtain ⟨taken, new, way⟩ := exists_way reached
  have groups : b.groups = new := by rw [way.groups, fresh, List.append_nil]
  rw [groups]
  exact ⟨fun g member => (way.keeps g member).mono (fun _ => id) suffix, way.captures⟩

/-- A group of a match holds a piece of the text that the inside of such a group admits. -/
theorem group?_of_find? (found : p.find? t = some b) (held : b.group? index = some u) :
    (∃ part, (index, part) ∈ p.parts ∧ part.Admits u) ∧ u <:+: t := by
  obtain ⟨g, first, rfl⟩ := Option.map_eq_some_iff.mp held
  have number : g.1 = index := by
    have passes := List.find?_some first
    exact beq_iff_eq.mp passes
  obtain ⟨part, w, member, admits, front, suffix⟩ :=
    (groups_of_find? found).1 g (List.mem_of_find?_eq_some first)
  have cut : g.2.1.take (g.2.1.length - g.2.2.length) = w := by
    rw [front, List.length_append, Nat.add_sub_cancel, List.take_left]
  rw [cut]
  refine ⟨⟨part, number ▸ member, admits⟩, ?_⟩
  rw [front] at suffix
  exact (List.prefix_append w g.2.2).isInfix.trans suffix.isInfix

/-- A match of a pattern that captures has a group. -/
theorem exists_group?_of_find? (found : p.find? t = some b) (every : p.captures = true) :
    ∃ i u, i ∈ p.parts.map Prod.fst ∧ b.group? i = some u := by
  obtain ⟨keeps, some_group⟩ := groups_of_find? found
  obtain ⟨g, member⟩ := List.exists_mem_of_ne_nil _ (some_group every)
  obtain ⟨part, _, listed, _⟩ := keeps g member
  refine ⟨g.1, ?_⟩
  cases first : b.groups.find? fun h => h.1 == g.1 with
  | none => exact absurd (List.find?_eq_none.mp first g member) (not_not_intro BEq.rfl)
  | some h =>
      exact ⟨_, List.mem_map_of_mem listed, by rw [Place.group?, first]; rfl⟩

/-! What the patterns that are built from others admit. -/

/-- A text that is the same word, letter by letter. -/
abbrev SameWord (word t : Text) : Prop := List.Forall₂ (fun l c => sameLetter l c = true) word t

theorem admits_literal : (literal s).Admits t ↔ SameWord s t := by
  unfold SameWord
  induction s generalizing t with
  | nil =>
      rw [List.forall₂_nil_left_iff]
      exact Iff.rfl
  | cons l s ih =>
      rw [List.forall₂_cons_left_iff]
      constructor
      · rintro ⟨_, v, rfl, ⟨c, rfl, same⟩, later⟩
        exact ⟨c, v, same, ih.mp later, rfl⟩
      · rintro ⟨c, v, same, later, rfl⟩
        exact ⟨[c], v, rfl, ⟨c, rfl, same⟩, ih.mpr later⟩

theorem admits_choice (nonempty : ps ≠ []) : (choice ps).Admits t ↔ ∃ p ∈ ps, p.Admits t := by
  induction ps with
  | nil => exact absurd rfl nonempty
  | cons p ps ih =>
      cases ps with
      | nil =>
          rw [choice]
          constructor
          · exact fun admits => ⟨p, List.mem_cons_self, admits⟩
          · rintro ⟨q, member, admits⟩
            rw [List.mem_singleton] at member
            rwa [member] at admits
      | cons q ps =>
          change p.Admits t ∨ (choice (q :: ps)).Admits t ↔ _
          rw [ih (List.cons_ne_nil q ps)]
          exact (List.exists_mem_cons_iff (·.Admits t) p (q :: ps)).symm

theorem admits_oneOrMore : (oneOrMore test).Admits t ↔ t ≠ [] ∧ ∀ c ∈ t, test c = true := by
  constructor
  · rintro ⟨_, v, rfl, ⟨c, rfl, passes⟩, all⟩
    exact ⟨List.cons_ne_nil c v, List.forall_mem_cons.mpr ⟨passes, all⟩⟩
  · rintro ⟨nonempty, all⟩
    obtain ⟨c, v, rfl⟩ := List.exists_cons_of_ne_nil nonempty
    exact ⟨[c], v, rfl, ⟨c, rfl, all c List.mem_cons_self⟩,
      fun d member => all d (List.mem_cons_of_mem c member)⟩

end Recurrence.Pattern
