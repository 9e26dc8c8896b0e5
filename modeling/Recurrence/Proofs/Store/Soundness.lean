import Mathlib.Data.List.Pairwise
import Recurrence.Proofs.Store.Calls

/-! The invariant of the tables: ids grow, none is beyond the last one given, every exception
belongs to an event that was there once, and a day of an event has one exception at most. -/

namespace Recurrence

namespace Tables

structure Sound (t : Tables) : Prop where
  ids : t.events.Pairwise fun a b => a.id < b.id
  bounded : ∀ e ∈ t.events, 0 < e.id ∧ e.id ≤ t.lastEvent
  fits : 0 ≤ t.lastEvent ∧ t.lastEvent < wordLimit
  known : ∀ x ∈ t.exceptions, x.parent ≤ t.lastEvent
  keyed : t.exceptions.Pairwise fun x y => ¬(x.parent = y.parent ∧ x.date = y.date)
  replacements : ∀ x ∈ t.exceptions, x.replacement.all fitsWord = true

variable {t t' : Tables} {id : Int}

theorem sound_empty : Sound {} where
  ids := .nil
  bounded := nofun
  fits := by decide
  known := nofun
  keyed := .nil
  replacements := nofun

theorem Sound.eq_of_id {a b : EventRow} (h : t.Sound) (ha : a ∈ t.events) (hb : b ∈ t.events)
    (same : a.id = b.id) : a = b := by
  have distinct : t.events.Pairwise fun a b => a.id ≠ b.id := h.ids.imp Int.ne_of_lt
  have : Std.Symm fun a b : EventRow => a.id ≠ b.id := ⟨fun _ _ => Ne.symm⟩
  by_cases equal : a = b
  · exact equal
  · exact absurd same (distinct.forall ha hb equal)

/-- An event that is there is found by its id. -/
theorem Sound.event?_of_mem {e : EventRow} (h : t.Sound) (member : e ∈ t.events) :
    t.event? e.id = some e := by
  cases found : t.events.find? fun a => a.id == e.id with
  | none =>
      have absent := List.find?_eq_none.mp found e member
      exact absurd (beq_self_eq_true e.id) absent
  | some other =>
      have id := List.find?_some found
      rw [event?, found, h.eq_of_id (List.mem_of_find?_eq_some found) member (beq_iff_eq.mp id)]

theorem Sound.fitsWord_id {e : EventRow} (h : t.Sound) (member : e ∈ t.events) :
    fitsWord e.id = true := by
  have := h.bounded e member
  have := h.fits
  rw [fitsWord, Bool.and_eq_true, decide_eq_true_eq, decide_eq_true_eq]
  omega

/-- An id that was not given before has no exceptions. -/
theorem Sound.parent_ne_of_fresh (h : t.Sound) (fresh : t.lastEvent < id) :
    ∀ x ∈ t.exceptions, x.parent ≠ id := by
  rintro x member rfl
  have := h.known x member
  omega

/-! Every write keeps the invariant. -/

namespace Sound

theorem insertEvent {row : Int → Except Fault EventRow} (h : t.Sound)
    (made : t.insertEvent row = .ok (t', id)) (numbered : ∀ e, row id = .ok e → e.id = id) :
    t'.Sound := by
  obtain ⟨fits, rfl, e, given, rfl⟩ := insertEvent_eq_ok made
  have number := numbered e given
  have last := h.fits
  rw [fitsWord, Bool.and_eq_true, decide_eq_true_eq, decide_eq_true_eq] at fits
  exact {
    ids := by
      rw [List.pairwise_append]
      refine ⟨h.ids, List.pairwise_singleton _ _, ?_⟩
      intro a member b new
      have := h.bounded a member
      rw [List.mem_singleton.mp new]
      omega
    bounded := by
      intro a member
      rcases List.mem_append.mp member with old | new
      · have := h.bounded a old
        dsimp only
        omega
      · rw [List.mem_singleton.mp new]
        dsimp only
        omega
    fits := by
      dsimp only
      omega
    known := by
      intro x member
      have := h.known x member
      dsimp only
      omega
    keyed := h.keyed
    replacements := h.replacements }

theorem updateEvent {change : EventRow → EventRow} (h : t.Sound)
    (numbered : ∀ e, (change e).id = e.id) : (t.updateEvent id change).Sound := by
  have kept : ∀ e : EventRow, (if e.id == id then change e else e).id = e.id := by
    intro e
    split
    · exact numbered e
    · rfl
  exact {
    ids := by
      apply List.pairwise_map.mpr
      simp only [kept]
      exact h.ids
    bounded := by
      intro a member
      obtain ⟨e, there, rfl⟩ := List.mem_map.mp member
      rw [kept]
      exact h.bounded e there
    fits := h.fits
    known := h.known
    keyed := h.keyed
    replacements := h.replacements }

/-- Taking rows out keeps the invariant. -/
theorem of_thins (h : t.Sound) (thin : t.ThinsTo t') : t'.Sound where
  ids := h.ids.sublist thin.events_sublist
  bounded := fun e member => thin.lastEvent ▸ h.bounded e (thin.mem_events member)
  fits := thin.lastEvent ▸ h.fits
  known := fun x member => thin.lastEvent ▸ h.known x (thin.mem_exceptions member)
  keyed := h.keyed.sublist thin.exceptions_sublist
  replacements := fun x member => h.replacements x (thin.mem_exceptions member)

theorem putException {parent : Int} {date : Text} {kind : OverrideKind} {replacement : Option Int}
    (h : t.Sound) (fits : replacement.all fitsWord = true)
    (made : t.putException parent date kind replacement = .ok t') : t'.Sound := by
  obtain ⟨event, events, last, written⟩ := putException_eq_ok made
  obtain ⟨owner, there, rfl⟩ := hasEvent_iff.mp event
  have rest : (t'.events.Pairwise fun a b => a.id < b.id)
      ∧ (∀ e ∈ t'.events, 0 < e.id ∧ e.id ≤ t'.lastEvent)
      ∧ 0 ≤ t'.lastEvent ∧ t'.lastEvent < wordLimit := by
    rw [events, last]
    exact ⟨h.ids, h.bounded, h.fits⟩
  obtain ⟨ids, bounded, lastFits⟩ := rest
  -- The day of an event keeps one exception: its row is changed, or there was none to it.
  rcases written with changed | ⟨free, added⟩
  · let change := fun x : ExceptionRow =>
      if x.parent == owner.id && x.date == date then { x with kind, replacement } else x
    have parents : ∀ x, (change x).parent = x.parent := by
      intro x
      dsimp only [change]
      split <;> rfl
    have dates : ∀ x, (change x).date = x.date := by
      intro x
      dsimp only [change]
      split <;> rfl
    refine ⟨ids, bounded, lastFits, ?_, ?_, ?_⟩
    · intro y member
      rw [changed] at member
      obtain ⟨x, old, rfl⟩ := List.mem_map.mp member
      rw [last]
      exact Int.le_trans (Int.le_of_eq (parents x)) (h.known x old)
    · rw [changed]
      apply List.pairwise_map.mpr
      apply h.keyed.imp
      intro x y apart both
      rw [← parents x, ← parents y, ← dates x, ← dates y] at apart
      exact apart both
    · intro y member
      rw [changed] at member
      obtain ⟨x, old, rfl⟩ := List.mem_map.mp member
      split
      · exact fits
      · exact h.replacements x old
  · refine ⟨ids, bounded, lastFits, ?_, ?_, ?_⟩
    · intro y member
      rw [added] at member
      rw [last]
      rcases List.mem_append.mp member with old | new
      · exact h.known y old
      · rw [List.mem_singleton.mp new]
        exact (h.bounded owner there).2
    · rw [added, List.pairwise_append]
      refine ⟨h.keyed, List.pairwise_singleton _ _, ?_⟩
      intro x old y new both
      rw [List.mem_singleton.mp new] at both
      have absent := List.find?_eq_none.mp free x old
      rw [both.1, both.2, beq_self_eq_true, beq_self_eq_true] at absent
      exact absent rfl
    · intro y member
      rw [added] at member
      rcases List.mem_append.mp member with old | new
      · exact h.replacements y old
      · rw [List.mem_singleton.mp new]
        exact fits

end Sound

end Tables

namespace Store

theorem Call.Makes.keeps_sound {call : Call} {w : Write} (made : call.Makes w) :
    w.Keeps Tables.Sound := by
  intro t t' h applied
  cases made with
  | insert row =>
      obtain ⟨⟨after, id⟩, inserted, rfl⟩ := map_eq_ok.mp applied
      apply h.insertEvent inserted
      intro e same
      cases same
      rfl
  | setRule =>
      cases applied
      exact h.updateEvent fun _ => rfl
  | put _ _ _ _ _ _ fits => exact h.putException fits applied
  | dropChild | deleteChildren | deleteEvent =>
      cases applied
      exact h.of_thins (t.thinsTo_deletion _)
  | removeException | deleteOwn =>
      cases applied
      exact h.of_thins (t.thinsTo_deleteExceptions _)

theorem Reaches.sound {allowed : Call → Prop} {s : Store} (run : Reaches allowed {} s) :
    s.Holds Tables.Sound :=
  run.holds ⟨Tables.sound_empty, Tables.sound_empty⟩ fun _ _ _ made => made.keeps_sound

/-- In a store that calls lead to, the tables are sound, as they are and as last committed. -/
theorem Reachable.sound {s : Store} (h : s.Reachable) : s.Holds Tables.Sound := Reaches.sound h

end Store

/-! An id is given once, so what is said of the row under it stays true as long as it does not depend
on the rule: nothing else of a row is ever changed. -/

/-- An id that was given, and something that the row under it satisfies if it is there. -/
structure Tables.Under (id : Int) (p : EventRow → Prop) (t : Tables) : Prop where
  given : id ≤ t.lastEvent
  told : ∀ e ∈ t.events, e.id = id → p e

theorem Tables.Under.of_thins {t t' : Tables} {id : Int} {p : EventRow → Prop} (h : t.Under id p)
    (thin : t.ThinsTo t') : t'.Under id p :=
  ⟨thin.lastEvent ▸ h.given, fun e member => h.told e (thin.mem_events member)⟩

theorem Store.Call.Makes.keeps_under {call : Call} {w : Write} (made : call.Makes w) {id : Int}
    {p : EventRow → Prop}
    (steady : ∀ (e : EventRow) (columns : RuleColumns) (modified : Text), p e →
      p { e with
        ruleText := columns.text, endDate := columns.endDate, count := columns.count, modified }) :
    w.Keeps (Tables.Under id p) := by
  intro t t' h applied
  cases made with
  | insert row =>
      obtain ⟨⟨after, new⟩, inserted, rfl⟩ := map_eq_ok.mp applied
      obtain ⟨-, rfl, e, made, rfl⟩ := Tables.insertEvent_eq_ok inserted
      have given := h.given
      refine ⟨by dsimp only; omega, ?_⟩
      intro a member same
      rcases List.mem_append.mp member with old | fresh
      · exact h.told a old same
      · rw [List.mem_singleton.mp fresh] at same
        cases made
        dsimp only at same
        omega
  | setRule other columns modified =>
      cases applied
      refine ⟨h.given, ?_⟩
      intro a member same
      obtain ⟨e, there, rfl⟩ := List.mem_map.mp member
      split at same
      · rename_i here
        rw [if_pos here]
        exact steady e columns modified (h.told e there same)
      · rename_i elsewhere
        rw [if_neg elsewhere]
        exact h.told e there same
  | put =>
      obtain ⟨-, events, last, -⟩ := Tables.putException_eq_ok applied
      exact ⟨last ▸ h.given, events ▸ h.told⟩
  | dropChild | deleteChildren | deleteEvent =>
      cases applied
      exact h.of_thins (t.thinsTo_deletion _)
  | removeException | deleteOwn =>
      cases applied
      exact ⟨h.given, h.told⟩

end Recurrence
