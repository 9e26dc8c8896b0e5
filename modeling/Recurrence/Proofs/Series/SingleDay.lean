import Recurrence.Proofs.Series.Staying

/-! What the override of one day does to an expansion. The days are used up by the rule, whatever the
overrides, so another override of a day changes that day and no other; it makes the expansion fail
only if it lets a slot in that ends outside the calendar. -/

namespace Recurrence

/-- The occurrence of a day under its override: none if that is a cancellation. -/
def Occurrence.under (o : Occurrence) (flag : Option Override) : List Occurrence :=
  if flag.any Override.isCancelled then [] else [{ o with override := flag }]

namespace Series

/-- The days that an expansion up to a horizon uses up, cancelled or not. -/
def usedDays (s : Series) (b : Bounds) (horizon : Date) : List Date :=
  (s.memberDays b.queryEnd horizon).take (s.share b).toNat

variable {s : Series} {b : Bounds} {os os' : List Override} {day horizon : Date}
  {found found' : List Occurrence}

theorem usedDays_sublist (s : Series) (b : Bounds) (horizon : Date) :
    (s.usedDays b horizon).Sublist (s.anchor.through horizon) :=
  (List.take_sublist _ _).trans List.filter_sublist

theorem le_of_mem_usedDays (h : day ∈ s.usedDays b horizon) : s.anchor ≤ day :=
  (Date.mem_through.mp ((s.usedDays_sublist b horizon).subset h)).1

theorem IsSlot.eq_of_isSlot {flag flag' : Option Override} {o o' : Occurrence}
    (h : s.IsSlot flag day o) (h' : s.IsSlot flag' day o') : o' = { o with override := flag' } := by
  have start : o'.start = o.start := h'.start.trans h.start.symm
  have finish : o'.finish = o.finish := by
    apply Moment.clockMicros_inj (h'.offset.trans h.offset.symm)
    rw [h'.finish, h.finish, start]
  rcases o' with ⟨_, _, _⟩
  cases start
  cases finish
  cases h'.override
  rfl

theorem IsSlot.unique {flag : Option Override} {o o' : Occurrence} (h : s.IsSlot flag day o)
    (h' : s.IsSlot flag day o') : o' = o := by
  rw [h.eq_of_isSlot h', ← h.override]

theorem IsSlot.date {flag : Option Override} {o : Occurrence} (h : s.IsSlot flag day o) :
    o.start.date = day := by
  rw [h.start]

section

variable (naive : s.start.offset = none ∧ s.finish.offset = none)
include naive

variable (agree : ∀ d, d ≠ day → Override.lastFor? os' d = Override.lastFor? os d)
include agree

/-- An expansion goes on succeeding if the slot of the day, where it is used up and no longer
cancelled, ends in the calendar. -/
theorem exists_expand_iff_of_agree (h : s.expand (.ofList os) b = .ok found) :
    (∃ found', s.expand (.ofList os') b = .ok found')
      ↔ ((Override.lastFor? os' day).any Override.isCancelled = false →
        ∀ horizon, s.anchor.addYears b.horizonYears = .ok horizon → day ∈ s.usedDays b horizon →
          s.endDay day ≤ lastOrdinal) := by
  obtain ⟨horizon, years, -⟩ := isSlot_of_expand naive.1 naive.2 h
  have stays := (staysInCalendar_iff naive years).mpr ⟨found, h⟩
  rw [← staysInCalendar_iff naive years]
  constructor
  · intro stays' shown _ same used
    obtain rfl := Except.ok.inj (years.symm.trans same)
    exact stays'.slots day used shown
  · intro inCalendar
    refine ⟨?_, stays.stops⟩
    intro d used shown
    by_cases here : d = day
    · subst here
      exact inCalendar shown horizon years used
    · rw [agree d here] at shown
      exact stays.slots d used shown

/-- On the other days an expansion finds what it found. -/
theorem filter_expand_of_agree (h : s.expand (.ofList os) b = .ok found)
    (h' : s.expand (.ofList os') b = .ok found') :
    found'.filter (fun o => decide (o.start.date ≠ day))
      = found.filter fun o => decide (o.start.date ≠ day) := by
  obtain ⟨horizon, years, slots⟩ := isSlot_of_expand naive.1 naive.2 h
  obtain ⟨_, same, slots'⟩ := isSlot_of_expand naive.1 naive.2 h'
  obtain rfl := Except.ok.inj (years.symm.trans same)
  simp only [OverrideSet.lookup?_ofList] at slots slots'
  have part := List.rel_filter (p := fun d => decide (d ≠ day))
    (q := fun o => decide (o.start.date ≠ day)) (fun d o slot => by dsimp only; rw [slot.date]) slots
  have part' := List.rel_filter (p := fun d => decide (d ≠ day))
    (q := fun o => decide (o.start.date ≠ day)) (fun d o slot => by dsimp only; rw [slot.date]) slots'
  have days : ((s.usedDays b horizon).filter fun d =>
        !(Override.lastFor? os' d).any Override.isCancelled).filter (fun d => decide (d ≠ day))
      = ((s.usedDays b horizon).filter fun d =>
        !(Override.lastFor? os d).any Override.isCancelled).filter fun d => decide (d ≠ day) := by
    rw [List.filter_filter, List.filter_filter]
    apply List.filter_congr
    intro d _
    by_cases here : d = day
    · rw [decide_eq_false (not_not_intro here), Bool.false_and, Bool.false_and]
    · rw [agree d here]
  rw [usedDays] at days
  rw [days] at part'
  have other := (List.forall₂_and_left (p := fun d => d ≠ day) _ _).mpr
    ⟨fun d listed => of_decide_eq_true (List.mem_filter.mp listed).2, part'⟩
  have alike := other.imp fun d o ⟨apart, slot⟩ => agree d apart ▸ slot
  exact List.right_unique_forall₂' (fun d o o' slot slot' => slot'.unique slot) alike part

end

/-- An expansion lists a day that it uses up once, unless the day is cancelled. -/
theorem filter_usedDays (used : day ∈ s.usedDays b horizon) :
    ((s.usedDays b horizon).filter fun d =>
        !(Override.lastFor? os d).any Override.isCancelled).filter (fun d => decide (d = day))
      = if (Override.lastFor? os day).any Override.isCancelled then [] else [day] := by
  have : Std.Irrefl fun d e : Date => d < e := ⟨fun _ => Nat.lt_irrefl _⟩
  have once : (s.usedDays b horizon).Nodup :=
    ((Date.through_sorted _ _).sublist (s.usedDays_sublist b horizon)).nodup
  by_cases cancelled : (Override.lastFor? os day).any Override.isCancelled = true
  · rw [if_pos cancelled, List.filter_eq_nil_iff]
    intro d listed same
    have kept := (List.mem_filter.mp listed).2
    rw [of_decide_eq_true same, cancelled] at kept
    cases kept
  · rw [if_neg cancelled, List.filter_eq, List.count_filter, List.count_eq_one_of_mem once used]
    · rfl
    · rw [Bool.not_eq_true', ← Bool.not_eq_true]
      exact cancelled

/-- What the series has without overrides are the slots of days that it uses up. -/
theorem isSlot_of_plain (naive : s.start.offset = none ∧ s.finish.offset = none)
    {plain : List Occurrence} (h : s.expand (.ofList []) b = .ok plain) {o : Occurrence}
    (member : o ∈ plain) :
    s.IsSlot none o.start.date o ∧ ∃ horizon, s.anchor.addYears b.horizonYears = .ok horizon
      ∧ o.start.date ∈ s.usedDays b horizon := by
  obtain ⟨horizon, years, slots⟩ := isSlot_of_expand naive.1 naive.2 h
  obtain ⟨day, shown, slot⟩ := exists_day_of_slots slots o member
  rw [slot.date]
  exact ⟨slot, horizon, years, (List.mem_filter.mp shown).1⟩

/-- On a day on which the series has an occurrence without overrides, an expansion has it as the
override of the day leaves it. -/
theorem filter_expand_eq_under (naive : s.start.offset = none ∧ s.finish.offset = none)
    (h : s.expand (.ofList os) b = .ok found) {plain : List Occurrence} {o : Occurrence}
    (without : s.expand (.ofList []) b = .ok plain) (member : o ∈ plain) :
    found.filter (fun x => decide (x.start.date = o.start.date))
      = o.under (Override.lastFor? os o.start.date) := by
  obtain ⟨slot, horizon, years, used⟩ := isSlot_of_plain naive without member
  obtain ⟨_, same, slots⟩ := isSlot_of_expand naive.1 naive.2 h
  obtain rfl := Except.ok.inj (years.symm.trans same)
  generalize o.start.date = day at slot used ⊢
  simp only [OverrideSet.lookup?_ofList] at slots
  have part := List.rel_filter (p := fun d => decide (d = day))
    (q := fun o => decide (o.start.date = day)) (fun d o slot => by dsimp only; rw [slot.date]) slots
  have days := @filter_usedDays s b os day horizon used
  rw [usedDays] at days
  rw [days] at part
  rw [Occurrence.under]
  split at part
  · rename_i cancelled
    rw [if_pos cancelled, List.forall₂_nil_left_iff.mp part]
  · rename_i kept
    obtain ⟨x, rest, here, none, found⟩ := List.forall₂_cons_left_iff.mp part
    rw [if_neg kept, found, List.forall₂_nil_left_iff.mp none, slot.eq_of_isSlot here]

end Series

end Recurrence
