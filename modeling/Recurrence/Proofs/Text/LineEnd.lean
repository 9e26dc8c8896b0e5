import Recurrence.Settings.File

/-! Line ends of two characters. Replacing them by line feeds leaves a text without carriage
returns as it is, and it works piece by piece where no piece begins with a line feed. -/

namespace Recurrence

/-- The pairs of a carriage return and a line feed are line feeds. -/
def lineFeeds : Text → Text
  | '\r' :: '\n' :: r => '\n' :: lineFeeds r
  | c :: r => c :: lineFeeds r
  | [] => []

variable {s t : Text} {c : Char}

theorem lineFeeds_cons (single : ∀ r, c :: t ≠ '\r' :: '\n' :: r) :
    lineFeeds (c :: t) = c :: lineFeeds t := by
  rw [lineFeeds]
  rintro r rfl rfl
  exact single r rfl

theorem replace_eq_lineFeeds (t : Text) : Text.replace ['\r', '\n'] ['\n'] t = lineFeeds t := by
  have enough : ∀ fuel t, t.length ≤ fuel → Text.replaceGo ['\r', '\n'] ['\n'] fuel t = lineFeeds t := by
    intro fuel
    induction fuel with
    | zero =>
        intro t short
        rw [List.eq_nil_of_length_eq_zero (Nat.le_zero.mp short)]
        rfl
    | succ fuel ih =>
        intro t short
        cases t with
        | nil => rfl
        | cons c r =>
            by_cases pair : ∃ s, c :: r = '\r' :: '\n' :: s
            · obtain ⟨s, same⟩ := pair
              obtain ⟨rfl, rfl⟩ := List.cons.inj same
              simp only [List.length_cons] at short
              exact congrArg ('\n' :: ·) (ih s (by omega))
            · have other : List.isPrefixOf ['\r', '\n'] (c :: r) = false := by
                apply Bool.eq_false_iff.mpr
                intro front
                obtain ⟨s, same⟩ := List.isPrefixOf_iff_prefix.mp front
                exact pair ⟨s, same.symm⟩
              rw [Text.replaceGo, other, if_neg Bool.false_ne_true,
                lineFeeds_cons fun s same => pair ⟨s, same⟩,
                ih r (Nat.le_of_succ_le_succ short)]
  exact enough t.length t (Nat.le_refl _)

theorem length_lineFeeds_le (t : Text) : (lineFeeds t).length ≤ t.length := by
  induction t using lineFeeds.induct with
  | case1 r ih =>
      rw [lineFeeds, List.length_cons, List.length_cons, List.length_cons]
      omega
  | case2 c r single ih =>
      rw [lineFeeds, List.length_cons, List.length_cons]
      · omega
      · exact single
  | case3 => exact Nat.le_refl 0

/-- Nothing is paired across a character that is no line feed. -/
theorem lineFeeds_append (front : t.head? ≠ some '\n') :
    lineFeeds (s ++ t) = lineFeeds s ++ lineFeeds t := by
  induction s using lineFeeds.induct with
  | case1 r ih => exact congrArg ('\n' :: ·) ih
  | case2 c r single ih =>
      have alone : ∀ u, c :: r ≠ '\r' :: '\n' :: u := by
        intro u same
        obtain ⟨rfl, rfl⟩ := List.cons.inj same
        exact single u rfl rfl
      have apart : ∀ u, c :: (r ++ t) ≠ '\r' :: '\n' :: u := by
        intro u same
        obtain ⟨rfl, rest⟩ := List.cons.inj same
        cases r with
        | nil => exact front (congrArg List.head? rest)
        | cons d r =>
            obtain ⟨rfl, -⟩ := List.cons.inj rest
            exact alone r rfl
      rw [List.cons_append, lineFeeds_cons apart, lineFeeds_cons alone, ih, List.cons_append]
  | case3 => rfl

theorem lineFeeds_eq_self (free : '\r' ∉ t) : lineFeeds t = t := by
  induction t with
  | nil => rfl
  | cons c t ih =>
      rw [List.mem_cons, not_or] at free
      rw [lineFeeds_cons fun r same => free.1 (List.cons.inj same).1.symm, ih free.2]

/-- Nor is anything paired behind a text without carriage returns. -/
theorem lineFeeds_append_of_free (free : '\r' ∉ s) : lineFeeds (s ++ t) = s ++ lineFeeds t := by
  induction s with
  | nil => rfl
  | cons c s ih =>
      rw [List.mem_cons, not_or] at free
      rw [List.cons_append, lineFeeds_cons fun r same => free.1 (List.cons.inj same).1.symm,
        ih free.2, List.cons_append]

/-- The line feed that stands for a carriage return. -/
def feed (c : Char) : Char := if c = '\r' then '\n' else c

theorem withLineFeeds_eq (t : Text) : withLineFeeds t = (lineFeeds t).map feed := by
  rw [withLineFeeds, replace_eq_lineFeeds]
  rfl

theorem feed_eq_self (other : c ≠ '\r') : feed c = c := if_neg other

/-- What becomes a character that is no line feed is that character. -/
theorem eq_of_feed {d : Char} (other : d ≠ '\n') (same : feed c = d) : c = d := by
  unfold feed at same
  split at same
  · exact absurd same.symm other
  · exact same

theorem eq_of_map_feed (free : '\n' ∉ s) (same : t.map feed = s) : t = s := by
  induction t generalizing s with
  | nil => exact same
  | cons c t ih =>
      subst same
      rw [List.map_cons, List.mem_cons, not_or] at free
      have here : c = feed c := eq_of_feed (Ne.symm free.1) rfl
      rw [List.map_cons, ← here, ← ih free.2 rfl]

theorem count_map_feed {d : Char} (other : d ≠ '\n') (free : d ≠ '\r') (t : Text) :
    (t.map feed).count d = t.count d := by
  rw [List.count_eq_countP, List.count_eq_countP, List.countP_map]
  apply List.countP_congr
  intro c _
  rw [Function.comp_apply, beq_iff_eq, beq_iff_eq]
  constructor
  · exact eq_of_feed other
  · rintro rfl
    exact feed_eq_self free

theorem withLineFeeds_eq_self (free : '\r' ∉ t) : withLineFeeds t = t := by
  rw [withLineFeeds_eq, lineFeeds_eq_self free]
  have same : ∀ c ∈ t, feed c = id c := fun c member => feed_eq_self fun cr => free (cr ▸ member)
  rw [List.map_congr_left same, List.map_id]

end Recurrence
