import Recurrence.Proofs.Calendar.Stepping
import Recurrence.Proofs.Series.Truncation

/-! The days of an expansion. It succeeds where the slots it looks at lie in the calendar, and unless
the share of the series is used up it has every day of the series that is not cancelled. -/

namespace Recurrence

/-- Counted from an anchor, the rule has no more days up to the horizon than are looked for. -/
structure Rule.ReachesHorizon (r : Rule) (anchor : Date) (b : Bounds) (horizon : Date) : Prop where
  years : anchor.addYears b.horizonYears = .ok horizon
  room : (((anchor.through horizon).filter fun day =>
      r.ends.all (fun e => decide (day ≤ e.date)) && r.occursOn anchor day).length : Int)
    ≤ b.maxInstances

namespace Series

variable {s : Series} {duration : Duration} {overrides : OverrideSet} {b : Bounds}

theorem exists_occurrence?_iff {day : Date} :
    (∃ found, s.occurrence? duration overrides day = .ok found)
      ↔ ((overrides.lookup? day).any Override.isCancelled = false →
        ∃ m, (s.slotStart day).add duration = .ok m) := by
  rw [occurrence?]
  cases (overrides.lookup? day).any Override.isCancelled with
  | true => exact ⟨fun _ kept => absurd kept.symm Bool.false_ne_true, fun _ => ⟨_, rfl⟩⟩
  | false =>
      rw [if_neg Bool.false_ne_true]
      constructor
      · rintro ⟨found, made⟩ -
        obtain ⟨m, sum, -⟩ := map_eq_ok.mp made
        exact ⟨m, sum⟩
      · intro slot
        obtain ⟨m, sum⟩ := slot rfl
        exact ⟨_, map_eq_ok.mpr ⟨m, sum, rfl⟩⟩

theorem mem_keptDays_cons {d day : Date} {days : List Date} {left : Nat}
    (member : s.rule.occursOn s.anchor day = true) :
    d ∈ s.keptDays overrides (day :: days) (left + 1)
      ↔ d = day ∧ (overrides.lookup? day).any Override.isCancelled = false
        ∨ d ∈ s.keptDays overrides days left := by
  simp only [keptDays, List.filter_cons, member, if_true, List.take_succ_cons]
  cases (overrides.lookup? day).any Override.isCancelled <;> simp

theorem mem_of_keptDays {d : Date} {days : List Date} {left : Nat}
    (h : d ∈ s.keptDays overrides days left) : d ∈ days :=
  (List.mem_filter.mp (List.mem_of_mem_take (List.mem_filter.mp h).1)).1

/-- A walk succeeds where the slots it lists lie in the calendar, unless it goes on to the last day of
the calendar. -/
theorem exists_walk_iff {days : Nat} {day : Date} {left : Nat} {found : List Occurrence} :
    (∃ result, s.walk duration overrides days day left found = .ok result)
      ↔ (∀ d ∈ s.keptDays overrides (Date.numbered day.ordinal days) left,
          ∃ m, (s.slotStart d).add duration = .ok m)
        ∧ (day.ordinal + days ≤ lastOrdinal
          ∨ left ≤ ((Date.numbered day.ordinal (lastOrdinal - day.ordinal)).filter
              (s.rule.occursOn s.anchor)).length) := by
  have range := day.ordinal_le_last
  induction days generalizing day left found with
  | zero =>
      rw [Date.numbered_zero, keptDays, List.filter_nil, List.take_nil, List.filter_nil]
      exact ⟨fun _ => ⟨fun _ absent => absurd absent List.not_mem_nil, .inl range⟩, fun _ => ⟨_, rfl⟩⟩
  | succ days ih =>
      cases left with
      | zero =>
          rw [keptDays, List.take_zero, List.filter_nil]
          refine ⟨fun _ => ⟨?_, .inr (Nat.zero_le _)⟩, fun _ => ⟨_, rfl⟩⟩
          exact fun _ absent => absurd absent List.not_mem_nil
      | succ left =>
          by_cases atEnd : day.ordinal = lastOrdinal
          · -- There is no next day, and no day was in front of the last one.
            have stuck : day.next? = none := by
              cases following : day.next? with
              | none => rfl
              | some next =>
                  have := Date.ordinal_next following
                  have := next.ordinal_le_last
                  omega
            rw [walk, stuck, atEnd, Nat.sub_self, Date.numbered_zero]
            constructor
            · rintro ⟨result, walked⟩
              split at walked
              · split at walked <;> cases walked
              · cases walked
            · rintro ⟨-, room | room⟩
              · omega
              · exact absurd room (Nat.not_succ_le_zero left)
          · obtain ⟨next, following⟩ := @Date.exists_next day (by omega)
            have number := Date.ordinal_next following
            have ahead : lastOrdinal - day.ordinal = (lastOrdinal - next.ordinal) + 1 := by omega
            have room : day.ordinal + (days + 1) = next.ordinal + days := by omega
            rw [walk, following, ahead, room, Date.numbered_ordinal, Date.numbered_ordinal, ← number]
            dsimp only
            cases member : s.rule.occursOn s.anchor day with
            | false =>
                have rest := @ih next (left + 1) found next.ordinal_le_last
                simpa only [keptDays, List.filter_cons, member, Bool.false_eq_true, if_false] using rest
            | true =>
                rw [if_pos rfl, List.filter_cons, if_pos member, List.length_cons,
                  Nat.add_le_add_iff_right]
                simp only [mem_keptDays_cons member, or_imp, forall_and, and_imp, forall_eq]
                rw [← exists_occurrence?_iff, and_assoc]
                cases s.occurrence? duration overrides day with
                | error fault =>
                    constructor
                    · rintro ⟨_, ⟨⟩⟩
                    · rintro ⟨⟨_, ⟨⟩⟩, -⟩
                | ok occurrence =>
                    have rest := @ih next left (occurrence.toList ++ found) next.ordinal_le_last
                    exact rest.trans ⟨fun held => ⟨⟨_, rfl⟩, held⟩, And.right⟩

/-- An expansion up to the end of a query succeeds where the slots up to there lie in the calendar. -/
theorem exists_expand {queryEnd : Stamp} {horizon : Date}
    (apart : s.finish.since s.start = .ok duration)
    (years : s.anchor.addYears b.horizonYears = .ok horizon)
    (inCalendar : queryEnd.date.ordinal < lastOrdinal)
    (slots : ∀ d : Date, s.anchor ≤ d → d ≤ queryEnd.date →
      ∃ m, (s.slotStart d).add duration = .ok m) :
    ∃ found, s.expand overrides { b with queryEnd := some queryEnd } = .ok found := by
  obtain ⟨last, bound, upTo⟩ : ∃ last : Date,
      s.lastDay { b with queryEnd := some queryEnd } = .ok last ∧ last ≤ queryEnd.date := by
    refine ⟨_, map_eq_ok.mpr ⟨horizon, years, rfl⟩, ?_⟩
    dsimp only
    rw [Option.map_some, Option.getD_some, Date.le_iff, Date.ordinal_earlier]
    exact Nat.min_le_right _ _
  rw [Date.le_iff] at upTo
  have first := s.anchor.ordinal_le_last
  obtain ⟨found, walked⟩ : ∃ found, s.walk duration overrides (last.ordinal + 1 - s.anchor.ordinal)
      s.anchor (s.limit { b with queryEnd := some queryEnd }) [] = .ok found := by
    refine exists_walk_iff.mpr ⟨?_, .inl (by omega)⟩
    intro d listed
    have bounds := mem_of_keptDays listed
    rw [Date.mem_numbered] at bounds
    apply slots d
    · rw [Date.le_iff]
      exact bounds.1
    · rw [Date.le_iff]
      omega
  refine ⟨found, ?_⟩
  apply bind_eq_ok.mpr
  refine ⟨duration, apart, ?_⟩
  apply bind_eq_ok.mpr
  exact ⟨last, bound, walked⟩

theorem dates_of_slots {R : Date → Occurrence → Prop} {days : List Date} {os : List Occurrence}
    (slots : List.Forall₂ R days os) (onDay : ∀ d o, R d o → o.start.date = d) :
    os.map (fun o => o.start.date) = days := by
  induction slots with
  | nil => rfl
  | cons slot _ ih => rw [List.map_cons, ih, onDay _ _ slot]

theorem dates_of_expand {found : List Occurrence} (h : s.expand overrides b = .ok found) :
    ∃ horizon, s.anchor.addYears b.horizonYears = .ok horizon
      ∧ found.map (fun o => o.start.date)
        = ((s.memberDays b.queryEnd horizon).take (s.share b).toNat).filter fun day =>
            !(overrides.lookup? day).any Override.isCancelled := by
  obtain ⟨duration, horizon, -, years, slots⟩ := expand_eq_ok h
  refine ⟨horizon, years, ?_⟩
  apply dates_of_slots slots
  rintro d o ⟨start, -⟩
  rw [start]
  rfl

/-- While the limit is not used up, a series without a count has each of its days that is not
cancelled. -/
theorem exists_date_iff {os : List Override} {found : List Occurrence} {queryEnd : Stamp}
    {horizon : Date} (uncounted : s.rule.count = none)
    (reaches : s.rule.ReachesHorizon s.anchor b horizon)
    (h : s.expand (.ofList os) { b with queryEnd := some queryEnd } = .ok found) (day : Date) :
    (∃ o ∈ found, o.start.date = day)
      ↔ day ∈ s.memberDays (some queryEnd) horizon
        ∧ (Override.lastFor? os day).any Override.isCancelled = false := by
  obtain ⟨last, years, dates⟩ := dates_of_expand h
  obtain rfl : horizon = last := Except.ok.inj (reaches.years.symm.trans years)
  have fewer : (s.memberDays (some queryEnd) horizon).length ≤ b.maxInstances.toNat := by
    have part : s.memberDays (some queryEnd) horizon
        = ((s.anchor.through horizon).filter fun day =>
            s.rule.ends.all (fun e => decide (day ≤ e.date)) && s.rule.occursOn s.anchor day).filter
          fun day => decide (day ≤ queryEnd.date) := by
      rw [memberDays, List.filter_filter]
      apply List.filter_congr
      intro day _
      rw [Option.all_some, Bool.and_right_comm, Bool.and_comm]
    have less := List.length_filter_le (fun day => decide (day ≤ queryEnd.date))
      ((s.anchor.through horizon).filter fun day =>
        s.rule.ends.all (fun e => decide (day ≤ e.date)) && s.rule.occursOn s.anchor day)
    have room := reaches.room
    rw [part]
    omega
  have share : s.share { b with queryEnd := some queryEnd } = b.maxInstances := by
    rw [share, uncounted]
  rw [share, List.take_of_length_le fewer] at dates
  rw [← List.mem_map (f := fun o : Occurrence => o.start.date), dates, List.mem_filter,
    OverrideSet.lookup?_ofList, Bool.not_eq_true']

end Series

end Recurrence
