import Recurrence.Proofs.Pattern.Captured

/-! Outlines of texts: of each character it is told which ones it may be, and runs of characters may
have any length. What a pattern can leave of a text is followed on an outline of it, with what stands
around a place left aside. Where nothing can be left, the pattern is found in no text of the outline. -/

namespace Recurrence.Pattern

inductive Piece
  /-- One character of a set. -/
  | one (set : Text)
  /-- Characters of a set, as many as there may be. -/
  | run (set : Text)

/-- A text has an outline. -/
inductive Fits : List Piece → Text → Prop
  | nil : Fits [] []
  | one {set : Text} {o : List Piece} {c : Char} {t : Text} :
      c ∈ set → Fits o t → Fits (.one set :: o) (c :: t)
  | skip {set : Text} {o : List Piece} {t : Text} : Fits o t → Fits (.run set :: o) t
  | more {set : Text} {o : List Piece} {c : Char} {t : Text} :
      c ∈ set → Fits (.run set :: o) t → Fits (.run set :: o) (c :: t)

/-- What one character that passes a test can leave. -/
def next (test : Char → Bool) : List Piece → List (List Piece)
  | [] => []
  | .one set :: o => if set.any test then [o] else []
  | .run set :: o => (if set.any test then [.run set :: o] else []) ++ next test o

/-- What any number of characters that pass a test can leave. -/
def behind (test : Char → Bool) : List Piece → List (List Piece)
  | [] => [[]]
  | .one set :: o => (.one set :: o) :: if set.any test then behind test o else []
  | .run set :: o => (.run set :: o) :: behind test o

/-- What a pattern can leave. -/
def leaves : Pattern → List Piece → List (List Piece)
  | char test, o => next test o
  | zeroOrMore test, o => behind test o
  | empty, o | notAhead _, o | notBehind _, o | boundary, o => [o]
  | seq first second, o => (first.leaves o).flatMap second.leaves
  | alt first second, o => first.leaves o ++ second.leaves o
  | group _ part, o => part.leaves o

/-- A pattern can leave something of an outline from some place on. -/
def mayBeIn (p : Pattern) : List Piece → Bool
  | [] => !(p.leaves []).isEmpty
  | piece :: o => !(p.leaves (piece :: o)).isEmpty || p.mayBeIn o

variable {p : Pattern} {test : Char → Bool} {o : List Piece} {a b : Place} {c : Char} {t u : Text}

/-- The outline of one text alone. -/
def spelled (t : Text) : List Piece := t.map fun c => .one [c]

theorem fits_spelled (u : Text) (fits : Fits o t) : Fits (spelled u ++ o) (u ++ t) := by
  induction u with
  | nil => exact fits
  | cons c u ih => exact .one (List.mem_singleton_self c) ih

theorem fits_self (t : Text) : Fits (spelled t) t := by
  have fits := fits_spelled t .nil
  rwa [List.append_nil, List.append_nil] at fits

theorem fits_run {set : Text} (inside : ∀ c ∈ u, c ∈ set) (fits : Fits o t) :
    Fits (.run set :: o) (u ++ t) := by
  induction u with
  | nil => exact .skip fits
  | cons c u ih =>
      obtain ⟨first, others⟩ := List.forall_mem_cons.mp inside
      exact .more first (ih others)

theorem exists_next (fits : Fits o (c :: t)) (passes : test c = true) :
    ∃ rest ∈ next test o, Fits rest t := by
  generalize whole : c :: t = s at fits
  induction fits with
  | nil => cases whole
  | @one set o d r member later _ =>
      cases whole
      have some : set.any test = true := List.any_eq_true.mpr ⟨c, member, passes⟩
      refine ⟨o, ?_, later⟩
      rw [next, some]
      exact List.mem_singleton_self o
  | skip _ ih =>
      obtain ⟨rest, reached, fits⟩ := ih whole
      exact ⟨rest, List.mem_append_right _ reached, fits⟩
  | @more set o d r member later _ =>
      cases whole
      have some : set.any test = true := List.any_eq_true.mpr ⟨c, member, passes⟩
      refine ⟨.run set :: o, ?_, later⟩
      rw [next, some]
      exact List.mem_append_left _ (List.mem_singleton_self _)

theorem exists_behind (fits : Fits o (u ++ t)) (passes : ∀ c ∈ u, test c = true) :
    ∃ rest ∈ behind test o, Fits rest t := by
  generalize whole : u ++ t = s at fits
  induction fits generalizing u with
  | nil =>
      obtain ⟨rfl, rfl⟩ := List.append_eq_nil_iff.mp whole
      exact ⟨[], List.mem_singleton_self _, .nil⟩
  | @one set o d r member later ih =>
      cases u with
      | nil =>
          cases whole
          exact ⟨_, List.mem_cons_self, .one member later⟩
      | cons e u =>
          cases whole
          obtain ⟨first, others⟩ := List.forall_mem_cons.mp passes
          obtain ⟨rest, reached, fits⟩ := ih others rfl
          have some : set.any test = true := List.any_eq_true.mpr ⟨d, member, first⟩
          refine ⟨rest, ?_, fits⟩
          rw [behind, some]
          exact List.mem_cons_of_mem _ reached
  | @skip set o r later ih =>
      obtain ⟨rest, reached, fits⟩ := ih passes whole
      exact ⟨rest, List.mem_cons_of_mem _ reached, fits⟩
  | @more set o d r member later ih =>
      cases u with
      | nil =>
          cases whole
          exact ⟨_, List.mem_cons_self, .more member later⟩
      | cons e u =>
          cases whole
          exact ih (List.forall_mem_cons.mp passes).2 rfl

/-- Every outcome leaves a text of an outline that the pattern can leave. -/
theorem exists_leaves (fits : Fits o a.rest) (reached : b ∈ p.outcomes a) :
    ∃ rest ∈ p.leaves o, Fits rest b.rest := by
  induction p generalizing o a b with
  | char test =>
      obtain ⟨⟨c, front, passes⟩, -⟩ := of_mem_outcomes_char reached
      exact exists_next (front ▸ fits) passes
  | zeroOrMore test =>
      rcases rest_of_mem_spans reached with absent | ⟨u, front, passes⟩
      · exact absurd absent List.not_mem_nil
      · exact exists_behind (front ▸ fits) passes
  | empty =>
      rw [List.mem_singleton.mp reached]
      exact ⟨o, List.mem_singleton_self o, fits⟩
  | seq p q ihp ihq =>
      obtain ⟨between, first, second⟩ := List.mem_flatMap.mp reached
      obtain ⟨middle, one, fits⟩ := ihp fits first
      obtain ⟨rest, two, fits⟩ := ihq fits second
      exact ⟨rest, List.mem_flatMap.mpr ⟨middle, one, two⟩, fits⟩
  | alt p q ihp ihq =>
      rcases List.mem_append.mp reached with first | second
      · obtain ⟨rest, one, fits⟩ := ihp fits first
        exact ⟨rest, List.mem_append_left _ one, fits⟩
      · obtain ⟨rest, two, fits⟩ := ihq fits second
        exact ⟨rest, List.mem_append_right _ two, fits⟩
  | group index p ih =>
      obtain ⟨between, inside, rfl⟩ := List.mem_map.mp reached
      exact ih (b := between) fits inside
  | notAhead p _ =>
      rw [outcomes] at reached
      split at reached
      · rw [List.mem_singleton.mp reached]
        exact ⟨o, List.mem_singleton_self o, fits⟩
      · cases reached
  | notBehind test =>
      rw [outcomes] at reached
      split at reached
      · cases reached
      · rw [List.mem_singleton.mp reached]
        exact ⟨o, List.mem_singleton_self o, fits⟩
  | boundary =>
      rw [outcomes] at reached
      split at reached
      · rw [List.mem_singleton.mp reached]
        exact ⟨o, List.mem_singleton_self o, fits⟩
      · cases reached

theorem outcomes_eq_nil (fits : Fits o a.rest) (nothing : (p.leaves o).isEmpty = true) :
    p.outcomes a = [] := by
  apply List.eq_nil_iff_forall_not_mem.mpr
  intro b reached
  obtain ⟨rest, left, -⟩ := exists_leaves fits reached
  rw [List.isEmpty_iff.mp nothing] at left
  exact absurd left List.not_mem_nil

/-- What cannot be in an outline is found in none of its texts. -/
theorem search_eq_none (fits : Fits o t) (never : p.mayBeIn o = false) (before : Option Char) :
    p.search before t = none := by
  induction fits generalizing before with
  | nil =>
      rw [mayBeIn, Bool.not_eq_false'] at never
      rw [search, outcomes_eq_nil (a := ⟨before, [], []⟩) .nil never]
      rfl
  | one member later ih =>
      rw [mayBeIn, Bool.or_eq_false_iff, Bool.not_eq_false'] at never
      rw [search, outcomes_eq_nil (a := ⟨before, _, []⟩) (.one member later) never.1]
      exact ih never.2 _
  | skip later ih =>
      rw [mayBeIn, Bool.or_eq_false_iff] at never
      exact ih never.2 before
  | more member later ih =>
      have here := never
      rw [mayBeIn, Bool.or_eq_false_iff, Bool.not_eq_false'] at here
      rw [search, outcomes_eq_nil (a := ⟨before, _, []⟩) (.more member later) here.1]
      exact ih never _

end Recurrence.Pattern
