import Recurrence.Proofs.Series.Window

/-! Ending a rule earlier cuts the expansion of its series, and so does the end of a query: the
occurrences up to the new end stay as they are, and the others go. The count does not get a new
start. -/

namespace Recurrence

theorem Date.ordinal_earlier (a b : Date) : (a.earlier b).ordinal = min a.ordinal b.ordinal := by
  unfold earlier
  split
  · rename_i before
    rw [lt_iff] at before
    omega
  · rename_i notBefore
    rw [lt_iff] at notBefore
    omega

namespace Series

variable {s : Series} {duration : Duration} {overrides : OverrideSet} {b : Bounds}

theorem date_of_walk {days : Nat} {day : Date} {left : Nat} {found result : List Occurrence}
    (h : s.walk duration overrides days day left found = .ok result) :
    ∃ ahead, result = found.reverse ++ ahead
      ∧ ∀ o ∈ ahead, day.ordinal ≤ o.start.date.ordinal ∧ o.start.date.ordinal < day.ordinal + days := by
  obtain ⟨ahead, rfl, slots⟩ := walk_eq_ok h
  refine ⟨ahead, rfl, ?_⟩
  intro o member
  obtain ⟨d, kept, start, -⟩ := exists_day_of_slots slots o member
  rw [start]
  exact Date.mem_numbered.mp (List.mem_filter.mp (List.mem_of_mem_take (List.mem_filter.mp kept).1)).1

/-- A walk that succeeds succeeds up to every day on its way, and what it finds behind that day
comes after what it has found until then. -/
theorem walk_shorter {days more : Nat} {day : Date} {left : Nat} {found result : List Occurrence}
    (h : s.walk duration overrides (days + more) day left found = .ok result) :
    ∃ ahead behind, s.walk duration overrides days day left found = .ok (found.reverse ++ ahead)
      ∧ result = found.reverse ++ ahead ++ behind
      ∧ (∀ o ∈ behind, day.ordinal + days ≤ o.start.date.ordinal
        ∧ o.start.date.ordinal < day.ordinal + days + more) := by
  induction days generalizing day left found with
  | zero =>
      rw [Nat.zero_add] at h
      obtain ⟨behind, rfl, later⟩ := date_of_walk h
      refine ⟨[], behind, ?_, ?_, later⟩
      · rw [List.append_nil, walk]
      · rw [List.append_nil]
  | succ days ih =>
      rw [Nat.succ_add] at h
      cases left with
      | zero =>
          cases h
          refine ⟨[], [], ?_, ?_, fun _ absent => absurd absent List.not_mem_nil⟩
          · rw [List.append_nil, walk]
          · rw [List.append_nil, List.append_nil]
      | succ left =>
          rw [walk] at h ⊢
          split at h
          · rename_i member
            rw [if_pos member]
            cases here : s.occurrence? duration overrides day with
            | error fault => rw [here] at h; cases h
            | ok occurrence =>
                rw [here] at h
                dsimp only at h ⊢
                split at h
                · cases h
                · rename_i next following
                  obtain ⟨ahead, behind, shorter, rfl, later⟩ := ih h
                  rw [Date.ordinal_next following] at later
                  refine ⟨occurrence.toList.reverse ++ ahead, behind, ?_, ?_, ?_⟩
                  · rw [shorter, List.reverse_append, List.append_assoc]
                  · simp only [List.reverse_append, List.append_assoc]
                  · intro o inside
                    have := later o inside
                    omega
          · rename_i stranger
            rw [if_neg stranger]
            split at h
            · cases h
            · rename_i next following
              obtain ⟨ahead, behind, shorter, rfl, later⟩ := ih h
              rw [Date.ordinal_next following] at later
              refine ⟨ahead, behind, shorter, rfl, ?_⟩
              intro o inside
              have := later o inside
              omega

/-- A walk from the anchor that succeeds finds by an earlier day those of its occurrences that start by
that day. -/
theorem walk_earlier {bound : Date} {left : Nat} {found : List Occurrence} (last : Date)
    (h : s.walk duration overrides (bound.ordinal + 1 - s.anchor.ordinal) s.anchor left [] = .ok found) :
    s.walk duration overrides ((bound.earlier last).ordinal + 1 - s.anchor.ordinal) s.anchor left []
      = .ok (found.filter fun o => decide (o.start.date ≤ last)) := by
  have days : bound.ordinal + 1 - s.anchor.ordinal
      = ((bound.earlier last).ordinal + 1 - s.anchor.ordinal)
        + (bound.ordinal - max (bound.earlier last).ordinal (s.anchor.ordinal - 1)) := by
    rw [Date.ordinal_earlier]
    omega
  rw [days] at h
  obtain ⟨ahead, behind, shorter, rfl, later⟩ := walk_shorter h
  obtain ⟨_, same, earlier⟩ := date_of_walk shorter
  obtain rfl := List.append_cancel_left same
  have kept : (ahead ++ behind).filter (fun o => decide (o.start.date ≤ last)) = ahead := by
    have front : ahead.filter (fun o => decide (o.start.date ≤ last)) = ahead := by
      apply List.filter_eq_self.mpr
      intro o member
      have := earlier o member
      rw [Date.ordinal_earlier] at this
      rw [decide_eq_true_eq, Date.le_iff]
      omega
    have back : behind.filter (fun o => decide (o.start.date ≤ last)) = [] := by
      apply List.filter_eq_nil_iff.mpr
      intro o member
      have := later o member
      rw [Date.ordinal_earlier] at this
      rw [decide_eq_true_eq, Date.le_iff]
      omega
    rw [List.filter_append, front, back, List.append_nil]
  rw [List.reverse_nil, List.nil_append, kept]
  exact shorter

theorem lastDay_endedBy {bound : Date} (last : Date) (h : s.lastDay b = .ok bound) :
    ({ s with rule := s.rule.endedBy last } : Series).lastDay b = .ok (bound.earlier last) := by
  obtain ⟨horizon, years, rfl⟩ := map_eq_ok.mp h
  apply map_eq_ok.mpr
  refine ⟨horizon, years, ?_⟩
  apply Date.ordinal_inj.mp
  unfold Rule.endedBy
  cases s.rule.ends <;> cases b.queryEnd
  all_goals
    simp only [Option.map_none, Option.map_some, Option.getD_none, Option.getD_some,
      Date.ordinal_earlier, Stamp.date]
  all_goals omega

theorem expand_endedBy {found : List Occurrence} (last : Date) (h : s.expand overrides b = .ok found) :
    ({ s with rule := s.rule.endedBy last } : Series).expand overrides b
      = .ok (found.filter fun o => decide (o.start.date ≤ last)) := by
  obtain ⟨duration, distance, h⟩ := bind_eq_ok.mp h
  obtain ⟨bound, bounded, walked⟩ := bind_eq_ok.mp h
  apply bind_eq_ok.mpr
  refine ⟨duration, distance, ?_⟩
  apply bind_eq_ok.mpr
  refine ⟨_, lastDay_endedBy last bounded, ?_⟩
  have same : (s.rule.endedBy last).occursOn s.anchor = s.rule.occursOn s.anchor := rfl
  rw [walk_congr same]
  exact walk_earlier last walked

theorem lastDay_upTo {bound : Date} {queryEnd : Stamp}
    (within : ∀ e, b.queryEnd = some e → queryEnd.date ≤ e.date) (h : s.lastDay b = .ok bound) :
    s.lastDay { b with queryEnd := some queryEnd } = .ok (bound.earlier queryEnd.date) := by
  obtain ⟨horizon, years, rfl⟩ := map_eq_ok.mp h
  apply map_eq_ok.mpr
  refine ⟨horizon, years, ?_⟩
  apply Date.ordinal_inj.mp
  cases ends : b.queryEnd with
  | none => simp only [Option.map_none, Option.map_some, Option.getD_none, Option.getD_some]
  | some e =>
      have sooner := within e ends
      rw [Date.le_iff] at sooner
      simp only [Option.map_some, Option.getD_some, Date.ordinal_earlier]
      omega

/-- An expansion that succeeds succeeds up to the end of a query that is no later than the one it had,
and the limit is used up by the same occurrences. -/
theorem expand_upTo {found : List Occurrence} {queryEnd : Stamp}
    (within : ∀ e, b.queryEnd = some e → queryEnd.date ≤ e.date)
    (h : s.expand overrides b = .ok found) :
    s.expand overrides { b with queryEnd := some queryEnd }
      = .ok (found.filter fun o => decide (o.start.date ≤ queryEnd.date)) := by
  obtain ⟨duration, distance, h⟩ := bind_eq_ok.mp h
  obtain ⟨bound, bounded, walked⟩ := bind_eq_ok.mp h
  apply bind_eq_ok.mpr
  refine ⟨duration, distance, ?_⟩
  apply bind_eq_ok.mpr
  exact ⟨_, lastDay_upTo within bounded, walk_earlier queryEnd.date walked⟩

end Series

end Recurrence
