import Recurrence.Proofs.Store.Nesting

/-! How deep events are nested, and how deep a deletion goes. A deletion is whole exactly if none of
the events that it begins with has another so many levels below it. -/

namespace Recurrence.Tables

/-- An event so many levels below another, by way of the children in between. -/
inductive Below (events : List EventRow) : Nat → Int → Int → Prop
  | here (i : Int) : Below events 0 i i
  | child {n : Nat} {e : EventRow} {p i : Int} :
      e ∈ events → e.parent = some p → p ≠ e.id → Below events n e.id i → Below events (n + 1) p i

/-- An event from which a deletion does not get to the end. -/
def IsDeep (t : Tables) (id : Int) : Prop := ∃ i, Below t.events deletionLevels id i

section Levels

variable {events fewer : List EventRow} {p i j : Int} {m n : Nat}

theorem Below.trans (first : Below events m p i) (second : Below events n i j) :
    Below events (n + m) p j := by
  induction first with
  | here => exact second
  | child member owner apart _ ih => exact .child member owner apart (ih second)

/-- Where there is an event so many levels below, there is one on each level before. -/
theorem Below.exists_of_le (h : Below events n p i) (le : m ≤ n) : ∃ k, Below events m p k := by
  induction h generalizing m with
  | here p => exact ⟨p, Nat.le_zero.mp le ▸ .here p⟩
  | @child _ _ p _ member owner apart _ ih =>
      cases m with
      | zero => exact ⟨p, .here p⟩
      | succ m =>
          obtain ⟨k, inner⟩ := ih (Nat.le_of_succ_le_succ le)
          exact ⟨k, .child member owner apart inner⟩

theorem InSubtree.exists_below (h : InSubtree events p i) : ∃ n, Below events n p i := by
  induction h with
  | root => exact ⟨0, .here p⟩
  | @child e q member owner _ ih =>
      by_cases own : q = e.id
      · exact own ▸ ih
      · obtain ⟨n, above⟩ := ih
        exact ⟨_, above.trans (.child member owner own (.here e.id))⟩

/-- The way down is there among fewer events if what it leads through is. -/
theorem Below.part {P : Int → Prop} (h : Below events n p i) (first : P p)
    (passes : ∀ e ∈ events, ∀ p, e.parent = some p → p ≠ e.id → P p → P e.id)
    (kept : ∀ e ∈ events, P e.id → e ∈ fewer) : Below fewer n p i := by
  induction h with
  | here p => exact .here p
  | @child _ e p _ member owner apart _ ih =>
      have next := passes e member p owner apart first
      exact .child (kept e member next) owner apart (ih next)

theorem Below.mono (h : Below fewer n p i) (part : ∀ e ∈ fewer, e ∈ events) : Below events n p i :=
  h.part (P := fun _ => True) trivial (fun _ _ _ _ _ _ => trivial) fun e member _ => part e member

end Levels

variable {t : Tables} {id : Int} {n : Nat}

/-- What goes with an event is in its subtree. -/
theorem inSubtree_deleteDown (levels : Nat) (t : Tables) (id : Int) :
    t.TakesOnly (InSubtree t.events id) (deleteDown levels t id).left :=
  takesOnly_deleteDown levels t id (fun _ member _ owner => .child member owner) .root

theorem Nested.outside (h : t.Nested) {e : EventRow} {p : Int} (member : e ∈ t.events)
    (owner : e.parent = some p) (apart : e.id ≠ id) (outside : ¬ InSubtree t.events id p) :
    ¬ InSubtree t.events id e.id := by
  intro inside
  generalize same : e.id = i at inside
  cases inside with
  | root => exact apart same
  | @child a q there own inner =>
      obtain rfl := h.sound.eq_of_id member there same
      cases owner.symm.trans own
      exact outside inner

theorem Nested.le_of_inSubtree (h : t.Nested) {i : Int} (inside : InSubtree t.events id i) : id ≤ i := by
  induction inside with
  | root => exact Int.le_refl id
  | child member owner _ ih => exact Int.le_trans ih (h.parents _ member _ owner)

/-- Nothing changes below an event that is outside of the subtree of an older one that is deleted. -/
theorem Nested.below_left (h : t.Nested) {levels : Nat} {i j : Int}
    (inner : Below t.events n i j) (later : id < i) (outside : ¬ InSubtree t.events id i) :
    Below (deleteDown levels t id).left.events n i j := by
  apply inner.part (P := fun i => id < i ∧ ¬ InSubtree t.events id i) ⟨later, outside⟩
  · rintro e member p owner - ⟨later, outside⟩
    have younger : id < e.id := Int.lt_of_lt_of_le later (h.parents e member p owner)
    exact ⟨younger, h.outside member owner (Int.ne_of_gt younger) outside⟩
  · intro e member own
    by_contra out
    exact own.2 ((inSubtree_deleteDown levels t id).events e member out)

/-- Events are deleted one after another, parents first, to the end exactly if no way down from one of
them is too long. -/
theorem Nested.isWhole_deleteEach {levels : Nat} {ids : List Int} (h : t.Nested)
    (each : ∀ {t : Tables} id, t.Nested →
      ((deleteDown levels t id).isWhole = true ↔ ∀ i, ¬ Below t.events levels id i))
    (ordered : ids.Pairwise (· < ·)) :
    (deleteEach (deleteDown levels) t ids).isWhole = true
      ↔ ∀ id ∈ ids, t.hasEvent id = true → ∀ i, ¬ Below t.events levels id i := by
  induction ids generalizing t with
  | nil => exact ⟨fun _ => nofun, fun _ => rfl⟩
  | cons id ids ih =>
      obtain ⟨first, ordered⟩ := List.pairwise_cons.mp ordered
      have thin := thinsTo_deleteDown levels t id
      rw [deleteEach]
      dsimp only
      simp only [List.forall_mem_cons]
      cases there : t.hasEvent id with
      | false =>
          rw [if_neg Bool.false_ne_true, ih h ordered]
          exact ⟨fun rest => ⟨fun absent => absurd absent Bool.false_ne_true, rest⟩, And.right⟩
      | true =>
          rw [if_pos rfl]
          by_cases whole : (deleteDown levels t id).isWhole = true
          · rw [if_pos whole, ih (h.of_thins thin) ordered]
            have shallow := (each id h).mp whole
            constructor
            · intro rest
              refine ⟨fun _ => shallow, ?_⟩
              intro i member had j inner
              -- What has gone with the first was below it, and so would be what is below it.
              by_cases inside : InSubtree t.events id i
              · obtain ⟨m, above⟩ := inside.exists_below
                obtain ⟨k, deep⟩ := (above.trans inner).exists_of_le (Nat.le_add_right levels m)
                exact shallow k deep
              · obtain ⟨e, has, rfl⟩ := hasEvent_iff.mp had
                have kept : e ∈ (deleteDown levels t id).left.events := by
                  by_contra out
                  exact inside ((inSubtree_deleteDown levels t id).events e has out)
                exact rest e.id member (hasEvent_iff.mpr ⟨e, kept, rfl⟩) j
                  (h.below_left inner (first e.id member) inside)
            · rintro ⟨-, rest⟩ i member has j inner
              exact rest i member (thin.hasEvent has) j (inner.mono fun e => thin.mem_events)
          · rw [if_neg whole]
            exact ⟨fun whole' => absurd whole' whole, fun both => (each id h).mpr (both.1 rfl)⟩

theorem Sound.pairwise_matched (h : t.Sound) (test : EventRow → Bool) :
    ((t.events.filter test).map EventRow.id).Pairwise (· < ·) :=
  List.pairwise_map.mpr (h.ids.sublist List.filter_sublist)

theorem Nested.isWhole_deleteDown {levels : Nat} (id : Int) (h : t.Nested) :
    (deleteDown levels t id).isWhole = true ↔ ∀ i, ¬ Below t.events levels id i := by
  induction levels generalizing t id with
  | zero => exact ⟨nofun, fun shallow => absurd (.here id) (shallow id)⟩
  | succ levels ih =>
      have thin := t.thinsTo_without id
      have left := h.of_thins thin
      rw [deleteDown_succ, left.isWhole_deleteEach ih (left.sound.pairwise_matched _)]
      constructor
      · rintro shallow i ⟨⟩
        rename_i e member owner apart inner
        have kept : e ∈ (t.without id).events := mem_events_without.mpr ⟨member, apart.symm⟩
        have younger : id < e.id := by
          have := h.parents e member id owner
          omega
        apply shallow e.id (mem_children.mpr ⟨e, kept, owner, rfl⟩) (hasEvent_iff.mpr ⟨e, kept, rfl⟩) i
        apply inner.part (P := (id < ·)) younger
        · exact fun a there p own _ later => Int.lt_of_lt_of_le later (h.parents a there p own)
        · exact fun a there later => mem_events_without.mpr ⟨there, (Int.ne_of_lt later).symm⟩
      · intro shallow i member _ j inner
        obtain ⟨e, kept, owner, rfl⟩ := mem_children.mp member
        obtain ⟨there, apart⟩ := mem_events_without.mp kept
        exact shallow j (.child there owner apart.symm (inner.mono fun a => thin.mem_events))

/-- A deletion is whole exactly if none of the events that it begins with is deep. -/
theorem Nested.isWhole_deletion (h : t.Nested) (test : EventRow → Bool) :
    (t.deletion test).isWhole = true ↔ ∀ e ∈ t.events, test e = true → ¬ t.IsDeep e.id := by
  unfold deletion
  rw [h.isWhole_deleteEach (fun id => isWhole_deleteDown id) (h.sound.pairwise_matched test)]
  simp only [IsDeep, not_exists]
  constructor
  · intro shallow e member hit
    exact shallow e.id (mem_matched.mpr ⟨e, member, hit, rfl⟩) (hasEvent_iff.mpr ⟨e, member, rfl⟩)
  · intro shallow i matched _
    obtain ⟨e, member, hit, rfl⟩ := mem_matched.mp matched
    exact shallow e member hit

/-- An event to which nothing belongs is not deep. -/
theorem not_isDeep (childless : ∀ e ∈ t.events, e.parent ≠ some id) : ¬ t.IsDeep id := by
  rintro ⟨i, inner⟩
  have levels : deletionLevels = 999 + 1 := rfl
  rw [levels] at inner
  cases inner with
  | child member owner => exact childless _ member owner

end Recurrence.Tables
