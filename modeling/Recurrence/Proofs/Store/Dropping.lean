import Recurrence.Proofs.Store.Depth
import Recurrence.Proofs.Store.Overriding
import Recurrence.Proofs.Store.Split

/-! Dropping the stand-in of a day: what it takes out, and when it goes too deep. -/

namespace Recurrence.Tables

variable {t : Tables} {id : Int} {day : Date} {keep : Option Text} {child : EventRow}

theorem Sound.exceptionOn?_of_mem {x : ExceptionRow} (h : t.Sound) (member : x ∈ t.exceptions) :
    t.exceptionOn? x.parent x.date = some x := by
  cases found : t.exceptionOn? x.parent x.date with
  | none =>
      have absent := List.find?_eq_none.mp found x member
      rw [beq_self_eq_true, beq_self_eq_true] at absent
      exact absurd rfl absent
  | some y =>
      have key := List.find?_some found
      rw [Bool.and_eq_true, beq_iff_eq, beq_iff_eq] at key
      have : Std.Symm fun x y : ExceptionRow => ¬(x.parent = y.parent ∧ x.date = y.date) :=
        ⟨fun _ _ apart same => apart ⟨same.1.symm, same.2.symm⟩⟩
      by_cases same : y = x
      · rw [same]
      · exact absurd key (h.keyed.forall (List.mem_of_find?_eq_some found) member same)

theorem replaced?_eq_some_iff {old : Int} :
    t.replaced? id day keep = some old
      ↔ (t.exceptionOn? id day.compactText).bind ExceptionRow.replacement = some old
        ∧ keep ≠ some (decimalInt old) := by
  rw [replaced?, Option.filter_eq_some_iff, decide_eq_true_iff]

theorem Sound.replaced?_eq_some {old : Int} (h : t.Sound) :
    t.replaced? id day keep = some old
      ↔ (∃ x ∈ t.exceptions, x.parent = id ∧ x.date = day.compactText ∧ x.replacement = some old)
        ∧ keep ≠ some (decimalInt old) := by
  rw [replaced?_eq_some_iff, Option.bind_eq_some_iff]
  constructor
  · rintro ⟨⟨x, found, names⟩, other⟩
    have key := List.find?_some found
    rw [Bool.and_eq_true, beq_iff_eq, beq_iff_eq] at key
    exact ⟨⟨x, List.mem_of_find?_eq_some found, key.1, key.2, names⟩, other⟩
  · rintro ⟨⟨x, member, rfl, date, names⟩, other⟩
    exact ⟨⟨x, date ▸ h.exceptionOn?_of_mem member, names⟩, other⟩

theorem thinsTo_dropping (t : Tables) (id : Int) (day : Date) (keep : Option Text) :
    t.ThinsTo (t.dropping id day keep).left := by
  unfold dropping
  split
  · exact .refl t
  · exact t.thinsTo_deletion _

@[simp] theorem lastException_dropped :
    (t.dropped id day keep).lastException = t.lastException :=
  (t.thinsTo_dropping id day keep).lastException

/-- The event that is to go with its day: the day's exception names it, and it is a child. -/
structure StandsIn (t : Tables) (id : Int) (day : Date) (keep : Option Text) (child : EventRow) :
    Prop where
  member : child ∈ t.events
  named : t.replaced? id day keep = some child.id
  owned : child.parent = some id

theorem StandsIn.id_eq {other : EventRow} (h : t.StandsIn id day keep child)
    (also : t.StandsIn id day keep other) : other.id = child.id :=
  Option.some.inj (also.named.symm.trans h.named)

theorem StandsIn.dropping_eq (h : t.StandsIn id day keep child) :
    t.dropping id day keep = deleteDown deletionLevels t child.id := by
  rw [dropping, h.named]
  apply deletion_of_only h.member
  · rw [h.owned, beq_self_eq_true, beq_self_eq_true]
    rfl
  · intro a _ hit
    rw [Bool.and_eq_true, beq_iff_eq] at hit
    exact hit.1

theorem StandsIn.absent (h : t.StandsIn id day keep child) :
    (t.dropped id day keep).hasEvent child.id = false := by
  rw [dropped, h.dropping_eq]
  exact absent_deleteDown deletionLevels t child.id

theorem dropping_of_none (none : ∀ child, ¬ t.StandsIn id day keep child) :
    t.dropping id day keep = ⟨t, true⟩ := by
  unfold dropping
  split
  · rfl
  · rename_i old named
    apply deletion_of_none
    intro e member
    apply Bool.eq_false_iff.mpr
    intro hit
    rw [Bool.and_eq_true, beq_iff_eq, beq_iff_eq] at hit
    exact none e ⟨member, hit.1 ▸ named, hit.2⟩

theorem rows_dropped_ne :
    (t.dropped id day keep).rows ≠ t.rows ↔ ∃ child, t.StandsIn id day keep child := by
  constructor
  · intro changed
    by_contra none
    rw [not_exists] at none
    rw [dropped, dropping_of_none none] at changed
    exact changed rfl
  · rintro ⟨child, h⟩ same
    have events : (t.dropped id day keep).events = t.events := congrArg Prod.fst same
    exact hasEvent_eq_false_iff.mp h.absent child (events.symm ▸ h.member) rfl

/-- Nothing older than the stand-in goes with it. -/
theorem Nested.takes_dropping (h : t.Nested) :
    t.TakesOnly (fun i => ∃ child, t.StandsIn id day keep child ∧ child.id ≤ i)
      (t.dropping id day keep).left := by
  by_cases one : ∃ child, t.StandsIn id day keep child
  · obtain ⟨child, stands⟩ := one
    have taken : t.TakesOnly (child.id ≤ ·) (t.dropping id day keep).left := by
      rw [stands.dropping_eq]
      apply takesOnly_deleteDown _ _ _ _ (Int.le_refl child.id)
      exact fun e member p owner above => Int.le_trans above (h.parents e member p owner)
    exact ⟨fun e member out => ⟨child, stands, taken.events e member out⟩,
      fun x member out => ⟨child, stands, taken.exceptions x member out⟩⟩
  · rw [dropping_of_none fun child stands => one ⟨child, stands⟩]
    exact .refl _ t

/-- A stand-in that is dropped whole takes with it what belongs to it, and nothing else. -/
theorem closes_dropping (whole : (t.dropping id day keep).isWhole = true) :
    t.Closes (t.dropping id day keep).left
      ∧ t.TakesOnly (t.Gone (t.dropping id day keep).left) (t.dropping id day keep).left := by
  unfold dropping at whole ⊢
  split at whole
  · exact ⟨.refl t, .refl _ t⟩
  · exact ⟨closes_deletion whole, gone_of_deletion whole⟩

/-- The stand-in is dropped whole unless it is deep. -/
theorem Nested.isWhole_dropping_eq_false (h : t.Nested) :
    (t.dropping id day keep).isWhole = false
      ↔ ∃ child, t.StandsIn id day keep child ∧ t.IsDeep child.id := by
  by_cases one : ∃ child, t.StandsIn id day keep child
  · obtain ⟨child, stands⟩ := one
    rw [stands.dropping_eq, ← Bool.not_eq_true, isWhole_deleteDown child.id h, not_forall_not]
    constructor
    · exact fun deep => ⟨child, stands, deep⟩
    · rintro ⟨other, also, deep⟩
      exact stands.id_eq also ▸ deep
  · rw [dropping_of_none fun child stands => one ⟨child, stands⟩]
    exact ⟨nofun, fun ⟨child, stands, _⟩ => absurd ⟨child, stands⟩ one⟩

/-- An event is deleted whole unless one of its children is deep. -/
theorem Nested.isWhole_deleting_eq_false (h : t.Nested) :
    (t.deleting id).isWhole = false ↔ ∃ e ∈ t.events, e.parent = some id ∧ t.IsDeep e.id := by
  let own := t.deleteExceptions fun x => x.parent == id
  have nested : own.Nested := h.of_thins (thinsTo_deleteExceptions _ _)
  have children := nested.isWhole_deletion fun e => e.parent == some id
  have whole : (∀ e ∈ own.events, (e.parent == some id) = true → ¬ own.IsDeep e.id)
      ↔ ¬ ∃ e ∈ t.events, e.parent = some id ∧ t.IsDeep e.id := by
    simp only [beq_iff_eq, not_exists, not_and]
    rfl
  rw [whole] at children
  unfold deleting
  dsimp only
  split
  · rename_i first
    refine iff_of_false (mt (Bool.eq_false_iff.mp ·) (not_not.mpr ?_)) (children.mp first)
    -- Without its children the event is not deep.
    apply (nested.of_thins (thinsTo_deletion _ _)).isWhole_deletion _ |>.mpr
    intro e _ same
    rw [beq_iff_eq] at same
    rw [same]
    apply not_isDeep
    intro a left owner
    have gone := absent_deletion first ((thinsTo_deletion _ _).mem_events left) (beq_iff_eq.mpr owner)
    exact hasEvent_eq_false_iff.mp gone a left rfl
  · rename_i broken
    rw [Bool.not_eq_true] at broken
    exact ⟨fun _ => not_not.mp (mt children.mpr (Bool.eq_false_iff.mp broken)), fun _ => broken⟩

theorem thinsTo_deleted (t : Tables) (id : Int) : t.ThinsTo (t.deleted id) := by
  have children := (thinsTo_deleteExceptions t fun x => x.parent == id).trans
    (thinsTo_deletion _ fun e => e.parent == some id)
  unfold deleted deleting
  dsimp only
  split
  · exact children.trans (thinsTo_deletion _ _)
  · exact children

/-- An event that is deleted whole goes after its children, which are deleted whole. -/
theorem deleting_of_isWhole (whole : (t.deleting id).isWhole = true) :
    ((t.deleteExceptions fun x => x.parent == id).deletion fun e => e.parent == some id).isWhole = true
      ∧ t.deleting id = ((t.deleteExceptions fun x => x.parent == id).deletion fun e =>
          e.parent == some id).left.deletion fun e => e.id == id := by
  unfold deleting at whole ⊢
  dsimp only at whole ⊢
  split at whole
  · rename_i children
    exact ⟨children, if_pos children⟩
  · rename_i children
    exact absurd whole children

theorem absent_deleted (whole : (t.deleting id).isWhole = true) :
    (t.deleted id).hasEvent id = false := by
  obtain ⟨-, last⟩ := deleting_of_isWhole whole
  rw [deleted]
  rw [last] at whole ⊢
  apply hasEvent_eq_false_iff.mpr
  rintro e member rfl
  have old := (thinsTo_deletion _ _).mem_events member
  exact hasEvent_eq_false_iff.mp (absent_deletion whole old (beq_iff_eq.mpr rfl)) e member rfl

/-- Deleting an event that has children takes one out, whether it goes too deep or not. -/
theorem exists_absent_deleted (member : child ∈ t.events) (owned : child.parent = some id) :
    ∃ a ∈ t.events, (t.deleted id).hasEvent a.id = false := by
  let own := t.deleteExceptions fun x => x.parent == id
  obtain ⟨a, there, gone⟩ :=
    @exists_absent_deletion own (fun e => e.parent == some id) child member (beq_iff_eq.mpr owned)
  refine ⟨a, there, ?_⟩
  unfold deleted deleting
  dsimp only
  split
  · exact (thinsTo_deletion _ _).absent gone
  · exact gone

end Recurrence.Tables
