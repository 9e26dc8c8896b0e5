import Recurrence.Proofs.Rule.Reading

/-! The order of the parts of a rule text. Reading goes through the parts once, and a part bears on
nothing but the field of its key. So parts with different keys may change places, and parts without a
key that is known may stand anywhere or be left out. -/

namespace Recurrence

/-- A part as it may stand in a rule text: it is not more than one, and it has no label of its own. -/
structure IsPart (part : Text) : Prop where
  whole : ';' ∉ part
  unlabelled : ¬ "RRULE:".toList <+: part.strip.upper

instance : DecidablePred IsPart := fun part =>
  decidable_of_iff (';' ∉ part ∧ ¬ "RRULE:".toList <+: part.strip.upper)
    ⟨fun h => ⟨h.1, h.2⟩, fun h => ⟨h.whole, h.unlabelled⟩⟩

/-- Ways from one list of parts to another that tells the same rule. -/
inductive Rearranged : List Text → List Text → Prop
  /-- The parts stand in another order, but those with the same key in the same one. -/
  | reorder {ps qs : List Text} (perm : ps.Perm qs)
      (inOrder : ∀ key : Text, ps.filter (hasKey key) = qs.filter (hasKey key)) : Rearranged ps qs
  | insert {part : Text} (before after : List Text) (unknown : ¬ IsKeyed part) :
      Rearranged (before ++ after) (before ++ part :: after)
  | remove {part : Text} (before after : List Text) (unknown : ¬ IsKeyed part) :
      Rearranged (before ++ part :: after) (before ++ after)
  | trans {ps qs rs : List Text} (first : Rearranged ps qs) (second : Rearranged qs rs) :
      Rearranged ps rs

/-- Neighbours with different keys may change places. -/
theorem Rearranged.exchange {p q : Text} (before after : List Text) (apart : keyText? p ≠ keyText? q) :
    Rearranged (before ++ p :: q :: after) (before ++ q :: p :: after) := by
  refine .reorder ((List.Perm.swap q p after).append_left before) fun key => ?_
  rw [List.filter_append, List.filter_append]
  cases ofFirst : hasKey key p with
  | false => simp only [List.filter_cons, ofFirst, Bool.false_eq_true, if_false]
  | true =>
      have ofSecond : hasKey key q = false := by
        rw [← Bool.not_eq_true, hasKey_iff, ← hasKey_iff.mp ofFirst]
        exact apart.symm
      simp only [List.filter_cons, ofFirst, ofSecond, Bool.false_eq_true, if_false, if_true]

/-- The parts with a known key come through unchanged and in their order. -/
theorem Rearranged.filter_eq {ps qs : List Text} (h : Rearranged ps qs) (key : RuleKey) :
    ps.filter (hasKey key.name) = qs.filter (hasKey key.name) := by
  have idle : ∀ {part : Text} (before after : List Text), ¬ IsKeyed part →
      (before ++ part :: after).filter (hasKey key.name) = (before ++ after).filter (hasKey key.name) := by
    intro part before after unknown
    rw [List.filter_append, List.filter_append, List.filter_cons_of_neg]
    intro keyed
    exact unknown ⟨key, hasKey_iff.mp keyed⟩
  induction h with
  | reorder perm inOrder => exact inOrder key.name
  | insert before after unknown => exact (idle before after unknown).symm
  | remove before after unknown => exact idle before after unknown
  | trans first second ih ih' => exact ih.trans ih'

namespace Rule

open DateText (Standpoint)

variable {ps qs : List Text}

theorem foldl_takingPart_congr
    (same : ∀ key : RuleKey, ps.filter (hasKey key.name) = qs.filter (hasKey key.name))
    (here : Standpoint) (r : Rule) :
    ps.foldl (takingPart here) r = qs.foldl (takingPart here) r := by
  apply eq_of_agreeOn
  intro key
  have front := @agreeOn_foldl here r r key (.refl key r) ps
  have back := @agreeOn_foldl here r r key (.refl key r) qs
  rw [same key] at front
  exact front.trans back.symm

theorem exists_breaksOff_congr
    (same : ∀ key : RuleKey, ps.filter (hasKey key.name) = qs.filter (hasKey key.name))
    {here : Standpoint} (h : ∃ p ∈ ps, BreaksOff here p) : ∃ q ∈ qs, BreaksOff here q := by
  obtain ⟨p, member, value, has, broken⟩ := h
  have among : p ∈ ps.filter (hasKey RuleKey.ends.name) :=
    List.mem_filter.mpr ⟨member, hasKey_iff.mpr has.keyText?⟩
  rw [same .ends] at among
  exact ⟨p, (List.mem_filter.mp among).1, value, has, broken⟩

theorem foldlM_withPart_congr
    (same : ∀ key : RuleKey, ps.filter (hasKey key.name) = qs.filter (hasKey key.name))
    (here : Standpoint) (r : Rule) :
    ps.foldlM (withPart here) r = qs.foldlM (withPart here) r := by
  by_cases breaks : ∃ p ∈ ps, BreaksOff here p
  · rw [foldlM_of_breaksOff breaks, foldlM_of_breaksOff (exists_breaksOff_congr same breaks)]
  · have whole : ∀ p ∈ ps, ¬ BreaksOff here p := fun p member held => breaks ⟨p, member, held⟩
    have whole' : ∀ q ∈ qs, ¬ BreaksOff here q := fun q member held =>
      breaks (exists_breaksOff_congr (fun key => (same key).symm) ⟨q, member, held⟩)
    rw [foldlM_of_not_breaksOff whole, foldlM_of_not_breaksOff whole',
      foldl_takingPart_congr same]

theorem foldlM_parts_joined (bare : ∀ p ∈ ps, IsPart p) (here : Standpoint) (r : Rule) :
    (parts (Text.joined [';'] ps)).foldlM (withPart here) r = ps.foldlM (withPart here) r :=
  foldlM_parts_unlabelled (fun p member => (bare p member).whole)
    (fun p first => (bare p (List.mem_of_mem_head? first)).unlabelled) here r

/-- Rearranging the parts of a rule text does not change the rule that is read. -/
theorem read?_rearranged (h : Rearranged ps qs) (hps : ∀ p ∈ ps, IsPart p) (hqs : ∀ q ∈ qs, IsPart q)
    (here : Standpoint) : read? here (Text.joined [';'] ps) = read? here (Text.joined [';'] qs) := by
  rw [read?, read?, foldlM_parts_joined hps, foldlM_parts_joined hqs,
    foldlM_withPart_congr h.filter_eq]

/-- The frequency changes places with a list of weekdays, and a note comes in. The second list of
weekdays still stands behind the first, and it is the one that is read. -/
theorem read?_rearranged_weekly :
    let freq := "freq=weekly".toList
    let mondays := "BYDAY=MO".toList
    let wednesdays := " ByDay = we".toList
    let note := "note".toList
    let weekly : Rule := { frequency := some .weekly, byDay := ["WE".toList] }
    Rearranged [freq, mondays, wednesdays] [mondays, freq, note, wednesdays]
      ∧ (∀ p ∈ [freq, mondays, wednesdays], IsPart p)
      ∧ (∀ q ∈ [mondays, freq, note, wednesdays], IsPart q)
      ∧ read? .first (Text.joined [';'] [freq, mondays, wednesdays]) = .ok (some weekly)
      ∧ read? .first (Text.joined [';'] [mondays, freq, note, wednesdays]) = .ok (some weekly) := by
  intro freq mondays wednesdays note weekly
  have unknown : ¬ IsKeyed note := by
    rintro ⟨key, keyed⟩
    cases keyed
  have rearranged : Rearranged [freq, mondays, wednesdays] [mondays, freq, note, wednesdays] :=
    (Rearranged.exchange [] [wednesdays] (by decide)).trans
      (.insert [mondays, freq] [wednesdays] unknown)
  have before : ∀ p ∈ [freq, mondays, wednesdays], IsPart p := by decide
  have after : ∀ q ∈ [mondays, freq, note, wednesdays], IsPart q := by decide
  have read : read? .first (Text.joined [';'] [freq, mondays, wednesdays]) = .ok (some weekly) := by
    decide +kernel
  exact ⟨rearranged, before, after, read,
    (read?_rearranged rearranged before after .first).symm.trans read⟩

end Rule

end Recurrence
