import Recurrence.Proofs.Pattern.First

/-! Blanks around a text. A run of a pattern over the padded text is followed by one over the bare text:
the places of the two are level, with the same text ahead but for the padding, until a run of blanks
goes into the padding, where the bare text has ended. Whether the first match holds the same texts in its
groups is then told by a check of the pattern alone. -/

namespace Recurrence

/-- All blanks there are. -/
def blanks : Text :=
  blankRanges.flatMap fun r => (List.range (r.2 + 1 - r.1)).map fun n => Char.ofNat (r.1 + n)

theorem mem_blanks {c : Char} (blank : isBlank c = true) : c ∈ blanks := by
  obtain ⟨r, range, within⟩ := List.any_eq_true.mp blank
  rw [Bool.and_eq_true, decide_eq_true_eq, decide_eq_true_eq] at within
  refine List.mem_flatMap.mpr ⟨r, range, List.mem_map.mpr ⟨c.toNat - r.1, ?_, ?_⟩⟩
  · rw [List.mem_range]
    omega
  · rw [Nat.add_sub_cancel' within.1, Char.ofNat_toNat]

theorem isWordChar_of_isBlank {c : Char} (blank : isBlank c = true) : isWordChar c = false := by
  have ascii : ∀ n < 128, isBlank (Char.ofNat n) = true → isWordChar (Char.ofNat n) = false := by
    decide +kernel
  have apart : (blankRanges.all fun b => wordRanges.all fun w => Nat.blt b.2 w.1 || Nat.blt w.2 b.1) = true := by
    decide +kernel
  by_cases low : c.toNat < 128
  · have known := ascii c.toNat low
    rw [Char.ofNat_toNat] at known
    exact known blank
  · obtain ⟨b, range, within⟩ := List.any_eq_true.mp blank
    rw [isWordChar, if_neg low]
    apply List.any_eq_false.mpr
    intro w listed inside
    have other := List.all_eq_true.mp (List.all_eq_true.mp apart b range) w listed
    rw [Bool.or_eq_true, Nat.blt_eq, Nat.blt_eq] at other
    rw [Bool.and_eq_true, decide_eq_true_eq, decide_eq_true_eq] at within inside
    omega

namespace Pattern

/-- No blank passes the test. -/
def avoidsBlanks (test : Char → Bool) : Bool := blanks.all fun c => !test c

theorem eq_false_of_avoidsBlanks {test : Char → Bool} {c : Char} (avoids : avoidsBlanks test = true)
    (blank : isBlank c = true) : test c = false := by
  have fails := List.all_eq_true.mp avoids c (mem_blanks blank)
  rwa [Bool.not_eq_true'] at fails

/-- The pattern takes no text, it looks around at most. -/
def takesNothing : Pattern → Bool
  | empty | notAhead _ | notBehind _ | boundary => true
  | _ => false

/-- The pattern matches neither at the end of a text nor in front of a blank. -/
def refusesPadding : Pattern → Bool
  | char test => avoidsBlanks test
  | seq first second => first.refusesPadding || first.takesNothing && second.refusesPadding
  | alt first second => first.refusesPadding && second.refusesPadding
  | group _ part => part.refusesPadding
  | _ => false

/-- A match may end inside the padding; `inside` tells whether it may begin there. -/
def drifts : Pattern → Bool → Bool
  | char _, _ | group _ _, _ => false
  | zeroOrMore test, inside => inside || !avoidsBlanks test
  | seq first second, inside => second.drifts (first.drifts inside)
  | alt first second, inside => first.drifts inside || second.drifts inside
  | _, inside => inside

/-- The pattern does not see where the text ends and the padding begins, from no place of the text and, where
`inside` is told, from none inside the padding. It may ask for a blank if what comes behind it is
`doomed` in the padding. -/
def isBlind : Pattern → (inside doomed : Bool) → Bool
  | char test, _, doomed => avoidsBlanks test || doomed
  | seq first second, inside, doomed =>
    first.isBlind inside (doomed || second.refusesPadding) && second.isBlind (first.drifts inside) doomed
  | alt first second, inside, doomed => first.isBlind inside doomed && second.isBlind inside doomed
  | group _ part, inside, doomed =>
    (!inside || part.refusesPadding) && !part.drifts false && part.isBlind false doomed
  | notAhead part, inside, _ => part.isBlind inside false
  | notBehind test, inside, _ => !inside && avoidsBlanks test
  | boundary, inside, _ => !inside
  | _, _, _ => true

/-- The texts in the groups. -/
def Place.captured (a : Place) : List (Nat × Text) :=
  a.groups.map fun g => (g.1, g.2.1.take (g.2.1.length - g.2.2.length))

theorem Place.group?_eq (a : Place) (index : Nat) :
    a.group? index = (a.captured.find? fun g => g.1 == index).map Prod.snd := by
  rw [Place.group?, Place.captured, List.find?_map, Option.map_map]
  rfl

variable {p q : Pattern} {test : Char → Bool} {a b x y : Place} {s t : Text} {inside doomed : Bool}
  {α β : Type} {k k' : Place → Option α}

/-! Where only blanks follow. -/

theorem eq_of_mem_outcomes (still : p.takesNothing = true) (reached : b ∈ p.outcomes a) : b = a := by
  have only : p.outcomes a = [] ∨ p.outcomes a = [a] := by
    cases p with
    | char | zeroOrMore | seq | alt | group => cases still
    | empty => exact .inr rfl
    | notAhead part =>
        rw [outcomes]
        split
        · exact .inr rfl
        · exact .inl rfl
    | notBehind test =>
        rw [outcomes]
        split
        · exact .inl rfl
        · exact .inr rfl
    | boundary =>
        rw [outcomes]
        split
        · exact .inr rfl
        · exact .inl rfl
  rcases only with none | one
  · rw [none] at reached
    cases reached
  · rw [one] at reached
    exact List.mem_singleton.mp reached

theorem outcomes_of_head? (refuses : p.refusesPadding = true)
    (padding : ∀ c ∈ a.rest.head?, isBlank c = true) : p.outcomes a = [] := by
  induction p with
  | char test =>
      obtain ⟨before, rest, groups⟩ := a
      cases rest with
      | nil => rfl
      | cons c r =>
          have fails := eq_false_of_avoidsBlanks refuses (padding c rfl)
          rw [outcomes_char, fails, if_neg Bool.false_ne_true]
  | seq p q ihp ihq =>
      rw [refusesPadding, Bool.or_eq_true, Bool.and_eq_true] at refuses
      rw [outcomes_seq]
      rcases refuses with first | ⟨still, second⟩
      · rw [ihp first, List.flatMap_nil]
      · apply List.flatMap_eq_nil_iff.mpr
        intro b reached
        rw [eq_of_mem_outcomes still reached, ihq second]
  | alt p q ihp ihq =>
      obtain ⟨first, second⟩ := Bool.and_eq_true_iff.mp refuses
      rw [outcomes_alt, ihp first, ihq second, List.append_nil]
  | group index part ih => rw [outcomes_group, ih refuses, List.map_nil]
  | zeroOrMore | empty | notAhead | notBehind | boundary => cases refuses

theorem outcomes_of_refusesPadding (refuses : p.refusesPadding = true)
    (padding : ∀ c ∈ a.rest, isBlank c = true) : p.outcomes a = [] :=
  outcomes_of_head? refuses fun c first => padding c (List.mem_of_mem_head? first)

theorem blank_of_mem_outcomes (padding : ∀ c ∈ a.rest, isBlank c = true) (reached : b ∈ p.outcomes a) :
    ∀ c ∈ b.rest, isBlank c = true := by
  obtain ⟨taken, _, way⟩ := exists_way reached
  intro c member
  exact padding c (way.rest ▸ List.mem_append_right taken member)

/-! Places in the padded text, and the places in the bare text that they stand for. -/

/-- The same place in both texts. At the beginning of the bare text the other may have a blank before. -/
structure Level (s : Text) (x y : Place) : Prop where
  rest : x.rest = y.rest ++ s
  before : x.before = y.before ∨ y.before = none ∧ x.before.any isBlank = true
  captured : x.captured = y.captured

/-- A place inside the padding where the bare text has ended. -/
structure Beyond (x y : Place) : Prop where
  padding : ∀ c ∈ x.rest, isBlank c = true
  ended : y.rest = []
  captured : x.captured = y.captured

/-- The place in the bare text that one in the padded text stands for; `inside` allows for places in the
padding. -/
def Alike (s : Text) (inside : Bool) (x y : Place) : Prop := Level s x y ∨ inside = true ∧ Beyond x y

theorem Level.any_before (level : Level s x y) (avoids : ∀ c, isBlank c = true → test c = false) :
    x.before.any test = y.before.any test := by
  rcases level.before with same | ⟨none, blank⟩
  · rw [same]
  · rw [none]
    cases here : x.before with
    | none => rfl
    | some c =>
        rw [here] at blank
        exact avoids c blank

theorem Level.any_ahead (level : Level s x y) (padding : ∀ c ∈ s, isBlank c = true)
    (avoids : ∀ c, isBlank c = true → test c = false) : x.rest.head?.any test = y.rest.head?.any test := by
  rw [level.rest]
  cases y.rest with
  | cons c r => rfl
  | nil =>
      cases s with
      | nil => rfl
      | cons c s => exact avoids c (padding c List.mem_cons_self)

/-- Past a character of the bare text. -/
theorem Level.next {c : Char} {r : Text} (level : Level s x y) :
    Level s { x with before := some c, rest := r ++ s } { y with before := some c, rest := r } where
  rest := rfl
  before := .inl rfl
  captured := level.captured

/-- What is asked of alike places has one answer, and none in the padding if matches are doomed there. -/
structure Agree (s : Text) (inside doomed : Bool) (k k' : Place → Option α) : Prop where
  same : ∀ x y, Alike s inside x y → k x = k' y
  stops : doomed = true → ∀ x, (∀ c ∈ x.rest, isBlank c = true) → k x = none

theorem Agree.mono {into : Bool} (agree : Agree s inside doomed k k') (within : into = true → inside = true) :
    Agree s into doomed k k' where
  same := fun x y alike => agree.same x y (alike.imp_right fun beyond => ⟨within beyond.1, beyond.2⟩)
  stops := agree.stops

variable {px py : List Place} {bx : Option Char} {gx : List (Nat × Text × Text)}

theorem findSome?_cons_or (a : Place) (l : List Place) :
    (a :: l).findSome? k = (k a).or (l.findSome? k) := by
  rw [List.findSome?_cons]
  cases k a <;> rfl

theorem findSome?_flatMap {f : Place → List Place} (l : List Place) :
    (l.flatMap f).findSome? k = l.findSome? fun a => (f a).findSome? k := by
  induction l with
  | nil => rfl
  | cons a l ih =>
      rw [List.flatMap_cons, List.findSome?_append, ih, List.findSome?_cons]
      cases (f a).findSome? k <;> rfl

/-- A run does not go into the padding if no blank passes. -/
theorem spans_of_avoidsBlanks (avoids : avoidsBlanks test = true) (padding : ∀ c ∈ t, isBlank c = true) :
    spans test gx px bx t = ⟨bx, t, gx⟩ :: px := by
  cases t with
  | nil => rfl
  | cons c t =>
      rw [spans, eq_false_of_avoidsBlanks avoids (padding c List.mem_cons_self), if_neg Bool.false_ne_true]

/-- However far a run goes into the padding, all its places stand for the end of the bare text. -/
theorem findSome?_spans_padding {answer : Option α} {texts : List (Nat × Text)}
    (same : ∀ x : Place, (∀ c ∈ x.rest, isBlank c = true) → x.captured = texts → k x = answer)
    (captured : Place.captured ⟨bx, t, gx⟩ = texts) (padding : ∀ c ∈ t, isBlank c = true) :
    (spans test gx px bx t).findSome? k = answer.or (px.findSome? k) := by
  induction t generalizing px bx with
  | nil => rw [spans, findSome?_cons_or, same _ padding captured]
  | cons c t ih =>
      have here : k ⟨bx, c :: t, gx⟩ = answer := same _ padding captured
      rw [spans]
      split
      · have behind : ∀ d ∈ t, isBlank d = true := fun d later => padding d (List.mem_cons_of_mem c later)
        rw [ih captured behind, findSome?_cons_or, here, ← Option.or_assoc, Option.or_self]
      · rw [findSome?_cons_or, here]

theorem findSome?_spans (agree : Agree s (inside || !avoidsBlanks test) doomed k k')
    (padding : ∀ c ∈ s, isBlank c = true) (level : Level s x y)
    (earlier : px.findSome? k = py.findSome? k') :
    (spans test x.groups px x.before x.rest).findSome? k
      = (spans test y.groups py y.before y.rest).findSome? k' := by
  obtain ⟨bx, rx, gx⟩ := x
  obtain ⟨bY, ry, gy⟩ := y
  obtain rfl : rx = ry ++ s := level.rest
  dsimp only
  induction ry generalizing px py bx bY with
  | nil =>
      -- the run over the bare text is over, the other goes on if blanks pass
      have here : k ⟨bx, s, gx⟩ = k' ⟨bY, [], gy⟩ := agree.same _ _ (.inl level)
      rw [spans, findSome?_cons_or, ← earlier, List.nil_append]
      by_cases avoids : avoidsBlanks test = true
      · rw [spans_of_avoidsBlanks avoids padding, findSome?_cons_or, here]
      · have drifts : (inside || !avoidsBlanks test) = true := by
          rw [Bool.eq_false_iff.mpr avoids, Bool.not_false, Bool.or_true]
        exact findSome?_spans_padding
          (fun x blank kept => agree.same x _ (.inr ⟨drifts, blank, rfl, kept⟩)) level.captured padding
  | cons c ry ih =>
      have here : k ⟨bx, c :: ry ++ s, gx⟩ = k' ⟨bY, c :: ry, gy⟩ := agree.same _ _ (.inl level)
      have more : (⟨bx, c :: ry ++ s, gx⟩ :: px).findSome? k = (⟨bY, c :: ry, gy⟩ :: py).findSome? k' := by
        rw [findSome?_cons_or, findSome?_cons_or, here, earlier]
      rw [List.cons_append, spans, spans]
      split
      · exact ih more _ _ level.next
      · exact more

/-! What each kind of pattern does at alike places. -/

theorem findSome?_char_padding (blind : (avoidsBlanks test || doomed) = true)
    (stops : doomed = true → ∀ x, (∀ c ∈ x.rest, isBlank c = true) → k x = none)
    (padding : ∀ c ∈ x.rest, isBlank c = true) : ((char test).outcomes x).findSome? k = none := by
  apply List.findSome?_eq_none_iff.mpr
  intro b reached
  rcases Bool.or_eq_true_iff.mp blind with avoids | dooms
  · rw [outcomes_of_refusesPadding (p := char test) avoids padding] at reached
    cases reached
  · exact stops dooms b (blank_of_mem_outcomes padding reached)

theorem findSome?_char (padding : ∀ c ∈ s, isBlank c = true) (blind : (avoidsBlanks test || doomed) = true)
    (agree : Agree s false doomed k k') (alike : Alike s inside x y) :
    ((char test).outcomes x).findSome? k = ((char test).outcomes y).findSome? k' := by
  obtain ⟨bY, ry, gy⟩ := y
  rcases alike with level | ⟨-, beyond⟩
  · obtain ⟨bx, rx, gx⟩ := x
    obtain rfl : rx = ry ++ s := level.rest
    cases ry with
    | nil => exact findSome?_char_padding blind agree.stops padding
    | cons c r =>
        rw [List.cons_append, outcomes_char, outcomes_char]
        split
        · rw [findSome?_cons_or, findSome?_cons_or, agree.same _ _ (.inl level.next)]
          rfl
        · rfl
  · obtain rfl : ry = [] := beyond.ended
    exact findSome?_char_padding blind agree.stops beyond.padding

theorem findSome?_zeroOrMore (padding : ∀ c ∈ s, isBlank c = true)
    (agree : Agree s (inside || !avoidsBlanks test) doomed k k') (alike : Alike s inside x y) :
    ((zeroOrMore test).outcomes x).findSome? k = ((zeroOrMore test).outcomes y).findSome? k' := by
  rcases alike with level | ⟨rfl, beyond⟩
  · exact findSome?_spans agree padding level rfl
  · obtain ⟨bY, ry, gy⟩ := y
    obtain rfl : ry = [] := beyond.ended
    rw [outcomes, outcomes, spans, findSome?_cons_or]
    exact findSome?_spans_padding (fun x blank kept => agree.same x _ (.inr ⟨rfl, blank, rfl, kept⟩))
      beyond.captured beyond.padding

/-- A group that is kept level holds the same text. -/
theorem Level.kept (outer : Level s x y) (inner : Level s a b) (index : Nat) :
    Level s { a with groups := (index, x.rest, a.rest) :: a.groups }
      { b with groups := (index, y.rest, b.rest) :: b.groups } where
  rest := inner.rest
  before := inner.before
  captured := by
    have text : x.rest.take (x.rest.length - a.rest.length) = y.rest.take (y.rest.length - b.rest.length) := by
      rw [outer.rest, inner.rest, List.length_append, List.length_append, Nat.add_sub_add_right,
        List.take_append_of_le_length (Nat.sub_le _ _)]
    have others := inner.captured
    rw [Place.captured, Place.captured] at others ⊢
    rw [List.map_cons, List.map_cons, others, text]

theorem isEmpty_eq (l : List Place) : l.isEmpty = (l.findSome? fun _ => some ()).isNone := by
  cases l <;> rfl

theorem findSome?_ite {shows : Prop} [Decidable shows] (same : k x = k' y) :
    (if shows then [x] else []).findSome? k = (if shows then [y] else []).findSome? k' := by
  split
  · rw [List.findSome?_singleton, List.findSome?_singleton, same]
  · rfl

/-- Over the padded text and over the bare one the first answer is the same. What follows a pattern is among
the questions asked of its outcomes, so of two in a row the second is a question for the first. -/
theorem findSome?_outcomes (padding : ∀ c ∈ s, isBlank c = true) (blind : p.isBlind inside doomed = true)
    (agree : Agree s (p.drifts inside) doomed k k') (alike : Alike s inside x y) :
    (p.outcomes x).findSome? k = (p.outcomes y).findSome? k' := by
  induction p generalizing inside doomed α x y with
  | char test => exact findSome?_char padding blind agree alike
  | zeroOrMore test => exact findSome?_zeroOrMore padding agree alike
  | empty =>
      rw [outcomes, outcomes, List.findSome?_singleton, List.findSome?_singleton]
      exact agree.same x y alike
  | seq p q ihp ihq =>
      obtain ⟨first, second⟩ := Bool.and_eq_true_iff.mp blind
      rw [outcomes_seq, outcomes_seq, findSome?_flatMap, findSome?_flatMap]
      refine ihp first ⟨fun x y between => ihq second agree between, ?_⟩ alike
      intro dooms x blank
      apply List.findSome?_eq_none_iff.mpr
      intro b reached
      rcases Bool.or_eq_true_iff.mp dooms with outer | refuses
      · exact agree.stops outer b (blank_of_mem_outcomes blank reached)
      · rw [outcomes_of_refusesPadding refuses blank] at reached
        cases reached
  | alt p q ihp ihq =>
      obtain ⟨first, second⟩ := Bool.and_eq_true_iff.mp blind
      rw [outcomes_alt, outcomes_alt, List.findSome?_append, List.findSome?_append,
        ihp first (agree.mono fun h => Bool.or_eq_true_iff.mpr (.inl h)) alike,
        ihq second (agree.mono fun h => Bool.or_eq_true_iff.mpr (.inr h)) alike]
  | group index part ih =>
      rw [isBlind, Bool.and_eq_true, Bool.and_eq_true, Bool.or_eq_true, Bool.not_eq_true',
        Bool.not_eq_true'] at blind
      obtain ⟨⟨outside, still⟩, inner⟩ := blind
      rw [outcomes_group, outcomes_group, List.findSome?_map, List.findSome?_map]
      rcases alike with level | ⟨rfl, beyond⟩
      · -- the inside ends level, so that the group has its end at the same place of both texts
        refine ih inner ⟨fun a b reached => ?_, fun dooms a blank => agree.stops dooms _ blank⟩ (.inl level)
        rw [still] at reached
        exact agree.same _ _ (.inl (level.kept (reached.resolve_right fun beyond => Bool.false_ne_true beyond.1) index))
      · have refuses := outside.resolve_left (by decide)
        have nothing : ∀ c ∈ y.rest, isBlank c = true := by
          rw [beyond.ended]
          exact List.forall_mem_nil _
        rw [outcomes_of_refusesPadding refuses beyond.padding, outcomes_of_refusesPadding refuses nothing]
        rfl
  | notAhead part ih =>
      have found : (part.outcomes x).findSome? (fun _ => some ())
          = (part.outcomes y).findSome? fun _ => some () :=
        ih blind ⟨fun _ _ _ => rfl, fun dooms => absurd dooms Bool.false_ne_true⟩ alike
      rw [outcomes, outcomes, isEmpty_eq, isEmpty_eq, found]
      exact findSome?_ite (agree.same x y alike)
  | notBehind test =>
      obtain ⟨outside, avoids⟩ := Bool.and_eq_true_iff.mp blind
      rcases alike with level | ⟨rfl, -⟩
      · rw [outcomes, outcomes, level.any_before fun _ => eq_false_of_avoidsBlanks avoids]
        split
        · rfl
        · rw [List.findSome?_singleton, List.findSome?_singleton, agree.same x y (.inl level)]
      · cases outside
  | boundary =>
      rcases alike with level | ⟨rfl, -⟩
      · rw [outcomes, outcomes, level.any_before fun _ => isWordChar_of_isBlank,
          level.any_ahead padding fun _ => isWordChar_of_isBlank]
        exact findSome?_ite (agree.same x y (.inl level))
      · cases blind

/-! The first match. -/

/-- The check of a pattern that blanks around a text do not change what is found in it. -/
def ignoresPadding (p : Pattern) : Bool := p.refusesPadding && p.isBlind false false

theorem search_append_padding (refuses : p.refusesPadding = true) {front u : Text}
    (padding : ∀ c ∈ front, isBlank c = true) (before : Option Char) :
    p.search before (front ++ u) = p.search (front.getLast?.or before) u := by
  induction front generalizing before with
  | nil => rfl
  | cons c front ih =>
      obtain ⟨first, others⟩ := List.forall_mem_cons.mp padding
      have none : p.outcomes ⟨before, c :: (front ++ u), []⟩ = [] := by
        apply outcomes_of_head? refuses
        rintro d ⟨⟩
        exact first
      rw [List.cons_append, search, none, getLast?_cons_or]
      exact ih others (some c)

theorem search_padding (refuses : p.refusesPadding = true) (padding : ∀ c ∈ s, isBlank c = true)
    (before : Option Char) : p.search before s = none := by
  have ended : ∀ c ∈ ([] : Text), isBlank c = true := List.forall_mem_nil _
  rw [← List.append_nil s, search_append_padding refuses padding, search,
    outcomes_of_refusesPadding refuses ended]
  rfl

theorem findSome?_some (f : Place → β) (l : List Place) :
    (l.findSome? fun a => some (f a)) = l.head?.map f := by
  cases l <;> rfl

theorem captured_search (ignores : p.ignoresPadding = true) (padding : ∀ c ∈ s, isBlank c = true)
    {bx bY : Option Char} (before : bx = bY ∨ bY = none ∧ bx.any isBlank = true) :
    (p.search bx (t ++ s)).map Place.captured = (p.search bY t).map Place.captured := by
  obtain ⟨refuses, blind⟩ := Bool.and_eq_true_iff.mp ignores
  induction t generalizing bx bY with
  | nil =>
      have ended : ∀ c ∈ ([] : Text), isBlank c = true := List.forall_mem_nil _
      rw [List.nil_append, search_padding refuses padding, search_padding refuses ended]
  | cons c r ih =>
      have level : Level s ⟨bx, c :: r ++ s, []⟩ ⟨bY, c :: r, []⟩ := ⟨rfl, before, rfl⟩
      have agree : Agree s (p.drifts false) false (fun a => some a.captured) fun a => some a.captured := by
        refine ⟨fun x y alike => ?_, nofun⟩
        rcases alike with level | ⟨-, beyond⟩
        · rw [level.captured]
        · rw [beyond.captured]
      have here := findSome?_outcomes padding blind agree (.inl level)
      rw [findSome?_some, findSome?_some] at here
      rw [List.cons_append] at here ⊢
      rw [search, search]
      cases bare : (p.outcomes ⟨bY, c :: r, []⟩).head? with
      | none =>
          rw [bare] at here
          rw [Option.map_eq_none_iff.mp here]
          exact ih (.inl rfl)
      | some b =>
          rw [bare] at here
          obtain ⟨a, padded, same⟩ := Option.map_eq_some_iff.mp here
          rw [padded]
          exact congrArg some same

/-- What is found first in a padded text holds the texts that it holds in the bare one. -/
theorem captured_find? (ignores : p.ignoresPadding = true) {front back : Text}
    (ahead : ∀ c ∈ front, isBlank c = true) (behind : ∀ c ∈ back, isBlank c = true) :
    (p.find? (front ++ t ++ back)).map Place.captured = (p.find? t).map Place.captured := by
  have refuses := (Bool.and_eq_true_iff.mp ignores).1
  rw [find?, find?, List.append_assoc, search_append_padding refuses ahead, Option.or_none]
  apply captured_search ignores behind
  cases last : front.getLast? with
  | none => exact .inl rfl
  | some c => exact .inr ⟨rfl, ahead c (List.mem_of_getLast? last)⟩

end Pattern

end Recurrence
