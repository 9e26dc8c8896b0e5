import Mathlib.Data.List.Infix
import Recurrence.Proofs.Series.Ceiling

/-! Looser bounds. Where every bound of an expansion allows as much as before or more, the expansion
keeps the occurrences that it had and goes on behind them. -/

namespace Recurrence.Series

/-- The second rule has the filters of the first one, and with its bounds it allows in every respect what
the first one allows or more: it counts no less or not at all, it and the query end no earlier or not at
all, and the ceiling and the horizon are no lower. -/
structure Loosens (r : Rule) (b : Bounds) (r' : Rule) (b' : Bounds) : Prop where
  filters : r' = { r with count := r'.count, ends := r'.ends }
  count : ∀ n', r'.count = some n' → ∃ n, r.count = some n ∧ 1 ≤ n ∧ n ≤ n'
  ends : ∀ e', r'.ends = some e' → ∃ e, r.ends = some e ∧ e.date ≤ e'.date
  queryEnd : ∀ e', b'.queryEnd = some e' → ∃ e, b.queryEnd = some e ∧ e.date ≤ e'.date
  maxInstances : b.maxInstances ≤ b'.maxInstances
  horizonYears : b.horizonYears ≤ b'.horizonYears

variable {s : Series} {r : Rule} {b b' : Bounds} {overrides : OverrideSet} {horizon horizon' : Date}

theorem share_le_maxInstances (s : Series) (b : Bounds) : s.share b ≤ b.maxInstances := by
  unfold share
  cases s.rule.count with
  | none => exact Int.le_refl _
  | some n =>
      dsimp only
      split
      · exact Int.le_refl _
      · exact Int.min_le_right _ _

theorem Loosens.share_le (looser : Loosens s.rule b r b') :
    s.share b ≤ ({ s with rule := r } : Series).share b' := by
  have ceiling := s.share_le_maxInstances b
  have higher := looser.maxInstances
  cases counted : r.count with
  | none =>
      have uncounted : ({ s with rule := r } : Series).share b' = b'.maxInstances := by
        rw [share, counted]
      rw [uncounted]
      exact Int.le_trans ceiling higher
  | some n' =>
      obtain ⟨n, given, positive, more⟩ := looser.count n' counted
      rw [share, share, counted, given]
      dsimp only
      rw [if_neg (by omega), if_neg (by omega)]
      omega

theorem Loosens.lastDay_le {last last' : Date} (looser : Loosens s.rule b r b')
    (years : s.anchor.addYears b.horizonYears = .ok horizon)
    (years' : s.anchor.addYears b'.horizonYears = .ok horizon') (bound : s.lastDay b = .ok last)
    (bound' : ({ s with rule := r } : Series).lastDay b' = .ok last') : last ≤ last' := by
  rw [lastDay_le_iff bound years]
  have reached : last' ≤ last' := Nat.le_refl _
  rcases (lastDay_le_iff bound' years').mp reached with far | ⟨e', ends, before⟩ | ⟨e', query, before⟩
  · exact .inl (Nat.le_trans (Date.addYears_le_addYears looser.horizonYears years years') far)
  · obtain ⟨e, given, earlier⟩ := looser.ends e' ends
    exact .inr (.inl ⟨e, given, Nat.le_trans earlier before⟩)
  · obtain ⟨e, given, earlier⟩ := looser.queryEnd e' query
    exact .inr (.inr ⟨e, given, Nat.le_trans earlier before⟩)

/-- The days within the tighter bounds come first among those within the looser ones. -/
theorem Loosens.memberDays_isPrefix (looser : Loosens s.rule b r b')
    (years : s.anchor.addYears b.horizonYears = .ok horizon)
    (years' : s.anchor.addYears b'.horizonYears = .ok horizon') :
    s.memberDays b.queryEnd horizon
      <+: ({ s with rule := r } : Series).memberDays b'.queryEnd horizon' := by
  obtain ⟨last, bound⟩ : ∃ last, s.lastDay b = .ok last := ⟨_, map_eq_ok.mpr ⟨horizon, years, rfl⟩⟩
  obtain ⟨last', bound'⟩ : ∃ last', ({ s with rule := r } : Series).lastDay b' = .ok last' :=
    ⟨_, map_eq_ok.mpr ⟨horizon', years', rfl⟩⟩
  obtain ⟨_, same, days⟩ := lastDay_eq_ok bound
  obtain rfl := Except.ok.inj (years.symm.trans same)
  obtain ⟨_, same', days'⟩ := lastDay_eq_ok bound'
  obtain rfl := Except.ok.inj (years'.symm.trans same')
  have further := s.anchor.through_isPrefix (looser.lastDay_le years years' bound bound')
  have own : r.occursOn = s.rule.occursOn := by
    rw [looser.filters]
    rfl
  rw [← days, ← days', own]
  exact further.filter _

/-- What a function gives for the front of some days is the front of what it gives for the days. -/
theorem isPrefix_of_forall₂ {α β : Type} {R : α → β → Prop} (functional : Relator.RightUnique R)
    {xs xs' : List α} {ys ys' : List β} (front : xs <+: xs') (h : List.Forall₂ R xs ys)
    (h' : List.Forall₂ R xs' ys') : ys <+: ys' := by
  have cut := List.forall₂_take xs.length h'
  rw [← List.prefix_iff_eq_take.mp front] at cut
  rw [List.right_unique_forall₂' functional h cut]
  exact List.take_prefix _ _

/-- Two expansions of a series that succeed, the second within looser bounds: the first one is where the
second one begins. -/
theorem expand_isPrefix {found found' : List Occurrence} (looser : Loosens s.rule b r b')
    (h : s.expand overrides b = .ok found)
    (h' : ({ s with rule := r } : Series).expand overrides b' = .ok found') : found <+: found' := by
  obtain ⟨duration, horizon, apart, years, slots⟩ := expand_eq_ok h
  obtain ⟨_, horizon', same, years', slots'⟩ := expand_eq_ok h'
  obtain rfl := Except.ok.inj (apart.symm.trans same)
  have front : (s.memberDays b.queryEnd horizon).take (s.share b).toNat
      <+: (({ s with rule := r } : Series).memberDays b'.queryEnd horizon').take
        (({ s with rule := r } : Series).share b').toNat := by
    have days := looser.memberDays_isPrefix years years'
    have more := Int.toNat_le_toNat looser.share_le
    exact (days.take _).trans (List.take_prefix_take_left more)
  apply isPrefix_of_forall₂ ?_ (front.filter _) slots slots'
  rintro day ⟨_, _, _⟩ ⟨_, _, _⟩ ⟨rfl, finish, rfl⟩ ⟨rfl, finish', rfl⟩
  obtain rfl := Except.ok.inj (finish.symm.trans finish')
  rfl

/-- Up to 4 January the query ends the expansion of every other day; without that end its count does,
which the cancelled day uses up as well. -/
theorem expand_isPrefix_everyOtherDay :
    let overrides := OverrideSet.ofList everyOtherDayOverrides
    let tight : Bounds := { withinAYear with queryEnd := some (.day ⟨2024, 1, 4, by decide⟩) }
    let more : Rule := { everyOtherDay.rule with count := some 4 }
    ∃ found found', Loosens everyOtherDay.rule tight more withinAYear
      ∧ everyOtherDay.expand overrides tight = .ok found ∧ found.length = 1
      ∧ ({ everyOtherDay with rule := more } : Series).expand overrides withinAYear = .ok found'
      ∧ found'.length = 3 ∧ found <+: found' := by
  intro overrides tight more
  have looser : Loosens everyOtherDay.rule tight more withinAYear := by
    refine ⟨rfl, ?_, nofun, nofun, by decide, by decide⟩
    rintro _ ⟨⟩
    exact ⟨3, rfl, by decide, by decide⟩
  have first : everyOtherDay.expand overrides tight
      = .ok [nineToTen ⟨2024, 1, 1, by decide⟩ none] := by
    decide +kernel
  have second : ({ everyOtherDay with rule := more } : Series).expand overrides withinAYear
      = .ok [nineToTen ⟨2024, 1, 1, by decide⟩ none,
        nineToTen ⟨2024, 1, 5, by decide⟩ (some ⟨⟨2024, 1, 5, by decide⟩, .modified, some ['8']⟩),
        nineToTen ⟨2024, 1, 7, by decide⟩ none] := by
    decide +kernel
  exact ⟨_, _, looser, first, rfl, second, rfl, expand_isPrefix looser first second⟩

end Recurrence.Series
