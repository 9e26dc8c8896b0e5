import Recurrence.Proofs.Store.Soundness

/-! Events that belong to other events. A parent stands before what belongs to it, so nothing that
was there before an event goes with it. -/

namespace Recurrence

namespace Tables

variable {t t' : Tables}

/-- Sound tables in which no event is older than its parent. -/
structure Nested (t : Tables) : Prop where
  sound : t.Sound
  parents : ∀ e ∈ t.events, ∀ p, e.parent = some p → p ≤ e.id

theorem parent_of_insertEvent {row : Int → Except Fault EventRow} {id : Int} {e : EventRow}
    (h : t.insertEvent row = .ok (t', id)) (made : row id = .ok e) :
    ∀ p, e.parent = some p → p = id ∨ ∃ a ∈ t.events, a.id = p := by
  unfold insertEvent at h
  obtain ⟨new, next, h⟩ := bind_eq_ok.mp h
  obtain ⟨e', given, h⟩ := bind_eq_ok.mp h
  split at h
  · rename_i there
    cases h
    rw [made] at given
    cases given
    intro p owner
    rw [owner, Option.all_some, Bool.or_eq_true, beq_iff_eq] at there
    exact there.imp_right hasEvent_iff.mp
  · cases h

namespace Nested

theorem of_thins (h : t.Nested) (thin : t.ThinsTo t') : t'.Nested where
  sound := h.sound.of_thins thin
  parents := fun e member => h.parents e (thin.mem_events member)

theorem insertEvent {row : Int → Except Fault EventRow} {id : Int} (h : t.Nested)
    (made : t.insertEvent row = .ok (t', id)) (numbered : ∀ e, row id = .ok e → e.id = id) :
    t'.Nested where
  sound := h.sound.insertEvent made numbered
  parents := by
    obtain ⟨-, number, e, given, rfl⟩ := insertEvent_eq_ok made
    intro a member p owner
    rcases List.mem_append.mp member with old | new
    · exact h.parents a old p owner
    · rw [List.mem_singleton.mp new] at owner ⊢
      rw [numbered e given]
      rcases parent_of_insertEvent made given p owner with rfl | ⟨b, there, rfl⟩
      · exact Int.le_refl _
      · have := h.sound.bounded b there
        omega

theorem updateEvent {id : Int} {change : EventRow → EventRow} (h : t.Nested)
    (numbered : ∀ e, (change e).id = e.id) (owned : ∀ e, (change e).parent = e.parent) :
    (t.updateEvent id change).Nested where
  sound := h.sound.updateEvent numbered
  parents := by
    intro a member p owner
    obtain ⟨e, there, rfl⟩ := List.mem_map.mp member
    split at owner
    · rename_i here
      rw [if_pos here, numbered]
      exact h.parents e there p (owned e ▸ owner)
    · rename_i elsewhere
      rw [if_neg elsewhere]
      exact h.parents e there p owner

theorem putException {parent : Int} {date : Text} {kind : OverrideKind} {replacement : Option Int}
    (h : t.Nested) (fits : replacement.all fitsWord = true)
    (made : t.putException parent date kind replacement = .ok t') : t'.Nested where
  sound := h.sound.putException fits made
  parents := by
    obtain ⟨-, events, -⟩ := putException_eq_ok made
    rw [events]
    exact h.parents

end Nested

end Tables

namespace Store

theorem Call.Makes.keeps_nested {call : Call} {w : Write} (made : call.Makes w) :
    w.Keeps Tables.Nested := by
  intro t t' h applied
  cases made with
  | insert row =>
      obtain ⟨⟨after, id⟩, inserted, rfl⟩ := map_eq_ok.mp applied
      apply h.insertEvent inserted
      intro e same
      cases same
      rfl
  | setRule =>
      cases applied
      exact h.updateEvent (fun _ => rfl) fun _ => rfl
  | put _ _ _ _ _ _ fits => exact h.putException fits applied
  | dropChild | deleteChildren | deleteEvent =>
      cases applied
      exact h.of_thins (t.thinsTo_deletion _)
  | removeException | deleteOwn =>
      cases applied
      exact h.of_thins (t.thinsTo_deleteExceptions _)

/-- In a store that calls lead to, no event is older than its parent. -/
theorem Reachable.nested {s : Store} (h : s.Reachable) : s.Holds Tables.Nested := by
  have empty : Tables.Nested {} := ⟨Tables.sound_empty, nofun⟩
  exact Reaches.holds h ⟨empty, empty⟩ fun _ _ _ made => made.keeps_nested

end Store

end Recurrence
