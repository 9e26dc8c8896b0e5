import Recurrence.Proofs.Store.Putting

/-! The events that belong to an event, by way of any number of parents. Calls on the rule and the
overrides of an event leave all others as they were, with their exceptions, and what goes with a
deleted event is what belongs to it. -/

namespace Recurrence

namespace Tables

/-- What belongs to no event is in its own subtree only. -/
theorem not_inSubtree_of_free {t : Tables} {root : Int} {e : EventRow} (sound : t.Sound)
    (member : e ∈ t.events) (free : e.parent = none) (other : e.id ≠ root) :
    ¬ InSubtree t.events root e.id := by
  intro inside
  generalize same : e.id = i at inside
  cases inside with
  | root => exact other same
  | child there owner =>
      rw [← sound.eq_of_id member there same, free] at owner
      cases owner

/-- Other tables have the events outside a subtree as they were, with their exceptions. -/
structure Spares (root : Int) (t t' : Tables) : Prop where
  last : t.lastEvent ≤ t'.lastEvent
  inside : ∀ i ≤ t.lastEvent, InSubtree t'.events root i → InSubtree t.events root i
  events : ∀ e ∈ t.events, ¬ InSubtree t.events root e.id → e ∈ t'.events
  exceptions : ∀ i ≤ t.lastEvent, ¬ InSubtree t.events root i →
    t'.exceptions.filter (fun x => x.parent == i) = t.exceptions.filter fun x => x.parent == i

variable {t t' t'' : Tables} {root id : Int} {day : Date} {keep : Option Text}

theorem Spares.refl (root : Int) (t : Tables) : t.Spares root t where
  last := Int.le_refl _
  inside := fun _ _ inside => inside
  events := fun _ member _ => member
  exceptions := fun _ _ _ => rfl

theorem Spares.trans (sound : t.Sound) (first : t.Spares root t') (second : t'.Spares root t'') :
    t.Spares root t'' where
  last := Int.le_trans first.last second.last
  inside := by
    intro i old inside
    exact first.inside i old (second.inside i (Int.le_trans old first.last) inside)
  events := by
    intro e member outside
    have old := (sound.bounded e member).2
    exact second.events e (first.events e member outside) (mt (first.inside e.id old) outside)
  exceptions := by
    intro i old outside
    rw [second.exceptions i (Int.le_trans old first.last) (mt (first.inside i old) outside)]
    exact first.exceptions i old outside

/-! What the writes of a call spare. -/

theorem spares_updateEvent {change : EventRow → EventRow} (numbered : ∀ e, (change e).id = e.id)
    (owned : ∀ e, (change e).parent = e.parent) : t.Spares root (t.updateEvent root change) where
  last := Int.le_refl _
  inside := by
    intro i old inside
    clear old
    induction inside with
    | root => exact .root
    | child member owner _ ih =>
        obtain ⟨e, there, rfl⟩ := List.mem_map.mp member
        split at owner
        · rename_i here
          rw [if_pos here, numbered]
          exact .child there (owned e ▸ owner) ih
        · rename_i elsewhere
          rw [if_neg elsewhere]
          exact .child there owner ih
  events := by
    intro e member outside
    refine List.mem_map.mpr ⟨e, member, if_neg ?_⟩
    rw [beq_iff_eq]
    rintro rfl
    exact outside .root
  exceptions := fun _ _ _ => rfl

/-- Where rows are taken out of a subtree only, what is outside is spared. -/
theorem spares_of_thins (thin : t.ThinsTo t') (takes : t.TakesOnly (InSubtree t.events root) t') :
    t.Spares root t' where
  last := Int.le_of_eq thin.lastEvent.symm
  inside := fun _ _ inside => inside.mono fun _ => thin.mem_events
  events := by
    intro e member outside
    by_contra out
    exact outside (takes.events e member out)
  exceptions := by
    intro i _ outside
    obtain ⟨keep, kept⟩ := thin.exceptions
    rw [kept, List.filter_filter]
    apply List.filter_congr
    intro x member
    rw [Bool.and_eq_left_iff_imp, beq_iff_eq]
    rintro rfl
    by_contra out
    apply outside (takes.exceptions x member _)
    rw [kept]
    exact fun left => out (List.mem_filter.mp left).2

theorem spares_deletion {test : EventRow → Bool}
    (hits : ∀ e ∈ t.events, test e = true → InSubtree t.events root e.id) :
    t.Spares root (t.deletion test).left := by
  apply spares_of_thins (t.thinsTo_deletion test)
  exact takesOnly_deletion hits fun e member p owner inside => .child member owner inside

theorem spares_deleteExceptions {test : ExceptionRow → Bool}
    (hits : ∀ x, test x = true → x.parent = root) : t.Spares root (t.deleteExceptions test) := by
  apply spares_of_thins (thinsTo_deleteExceptions t test)
  refine ⟨fun e member out => absurd member out, fun x member out => ?_⟩
  have hit : test x = true := by
    by_contra kept
    exact out (List.mem_filter.mpr ⟨member, (Bool.not_eq_true' _).mpr (Bool.eq_false_iff.mpr kept)⟩)
  exact hits x hit ▸ .root

theorem spares_dropped : t.Spares root (t.dropped root day keep) := by
  unfold dropped dropping
  split
  · exact .refl root t
  · apply spares_deletion
    intro e member hit
    rw [Bool.and_eq_true, beq_iff_eq, beq_iff_eq] at hit
    exact .child member hit.2 .root

theorem spares_removed (sound : t.Sound) : t.Spares root (t.removed root day) := by
  apply spares_dropped.trans sound
  apply spares_deleteExceptions
  intro x hit
  rw [Bool.and_eq_true, beq_iff_eq] at hit
  exact hit.1

/-- A change that moves no item into a part of a list or out of it, and none within, leaves the part. -/
theorem filter_map_of_kept {α : Type} {items : List α} {change : α → α} {part : α → Bool}
    (kept : ∀ x, part (change x) = part x ∧ (part x = true → change x = x)) :
    (items.map change).filter part = items.filter part := by
  induction items with
  | nil => rfl
  | cons x items ih =>
      obtain ⟨same, self⟩ := kept x
      rw [List.map_cons, List.filter_cons, List.filter_cons, same, ih]
      split
      · rename_i inside
        rw [self inside]
      · rfl

theorem spares_putException {date : Text} {kind : OverrideKind} {replacement : Option Int}
    (made : t.putException root date kind replacement = .ok t') : t.Spares root t' := by
  obtain ⟨-, events, last, exceptions⟩ := putException_eq_ok made
  refine ⟨Int.le_of_eq last.symm, fun i _ inside => events ▸ inside,
    fun e member _ => events ▸ member, ?_⟩
  intro i _ outside
  have other : ∀ x : ExceptionRow, x.parent = root → (x.parent == i) = false := by
    rintro x rfl
    rw [beq_eq_false_iff_ne]
    rintro rfl
    exact outside .root
  rcases exceptions with changed | ⟨-, added⟩
  · rw [changed]
    apply filter_map_of_kept
    intro x
    by_cases hit : (x.parent == root && x.date == date) = true
    · rw [if_pos hit]
      rw [Bool.and_eq_true, beq_iff_eq] at hit
      exact ⟨rfl, fun same => absurd same (Bool.eq_false_iff.mp (other x hit.1))⟩
    · rw [if_neg hit]
      exact ⟨rfl, fun _ => rfl⟩
  · rw [added, List.filter_append, List.filter_singleton, other _ rfl]
    exact List.append_nil _

theorem spares_put {o : Override} {u : Unit} (made : t.put root o = .ok (t', u)) :
    t.Spares root t' := by
  obtain ⟨_, -, made⟩ := bind_eq_ok.mp made
  obtain ⟨_, -, made⟩ := bind_eq_ok.mp made
  obtain ⟨_, written, left⟩ := map_eq_ok.mp made
  cases left
  exact spares_putException written

theorem spares_added {c : Conditions} {title : Option Text} {start finish : Moment}
    {rule : Option Rule} {parent : Option Int} (nested : t.Nested)
    (made : t.added c title start finish rule parent = .ok (t', id)) : t.Spares root t' := by
  obtain ⟨columns, row, -, -, -, rfl, new, rfl⟩ := added_eq_ok made
  obtain ⟨number, -⟩ := newRow_eq_ok new
  refine ⟨by dsimp only; omega, ?_, fun e member _ => List.mem_append_left _ member, fun _ _ _ => rfl⟩
  intro i old inside
  induction inside with
  | root => exact .root
  | @child e p member owner _ ih =>
      rcases List.mem_append.mp member with there | fresh
      · have older := nested.parents e there p owner
        exact .child there owner (ih (by omega))
      · rw [List.mem_singleton.mp fresh, number] at old
        omega

/-! Deleting an event. -/

theorem spares_deleted (sound : t.Sound) : t.Spares id (t.deleted id) := by
  let own := t.deleteExceptions fun x => x.parent == id
  have alone : t.Spares id own := spares_deleteExceptions fun x hit => beq_iff_eq.mp hit
  have children : own.Spares id (own.deletion fun e => e.parent == some id).left := by
    apply spares_deletion
    intro e member hit
    exact .child member (beq_iff_eq.mp hit) .root
  have self : ∀ t : Tables, t.Spares id (t.deletion fun e => e.id == id).left := by
    intro t
    apply spares_deletion
    intro e _ hit
    rw [beq_iff_eq.mp hit]
    exact .root
  have own_sound : own.Sound := sound.of_thins (thinsTo_deleteExceptions _ _)
  unfold deleted deleting
  dsimp only
  split
  · exact alone.trans sound (children.trans own_sound (self _))
  · exact alone.trans sound children

section Whole

variable (there : t.hasEvent id = true) (whole : (t.deleting id).isWhole = true)
include there whole

/-- With an event goes all that belongs to it. -/
theorem gone_deleted {i : Int} (inside : InSubtree t.events id i) :
    t.Gone (t.deleted id) i ∧ ∀ x ∈ (t.deleted id).exceptions, x.parent ≠ i := by
  let own := t.deleteExceptions fun x => x.parent == id
  obtain ⟨first, last⟩ := deleting_of_isWhole whole
  have left : t.deleted id = ((own.deletion fun e => e.parent == some id).left.deletion fun e =>
      e.id == id).left := congrArg Deletion.left last
  have thin : own.ThinsTo (own.deletion fun e => e.parent == some id).left := own.thinsTo_deletion _
  have thin' : (own.deletion fun e => e.parent == some id).left.ThinsTo (t.deleted id) :=
    left ▸ thinsTo_deletion _ _
  have closes : own.Closes (t.deleted id) := by
    apply (closes_deletion first).trans _ thin thin'
    rw [left]
    exact closes_deletion (last ▸ whole)
  have gone : own.Gone (t.deleted id) i := by
    induction inside with
    | root => exact ⟨there, absent_deleted whole⟩
    | child member owner _ ih => exact closes.events _ member _ owner ih
  refine ⟨⟨gone.there, gone.absent⟩, ?_⟩
  rintro x kept rfl
  exact closes.exceptions x ((thin.trans thin').mem_exceptions kept) gone kept

/-- With an event goes what belongs to it, and nothing else. -/
theorem mem_events_deleted (sound : t.Sound) {e : EventRow} :
    e ∈ (t.deleted id).events ↔ e ∈ t.events ∧ ¬ InSubtree t.events id e.id := by
  constructor
  · intro kept
    exact ⟨(t.thinsTo_deleted id).mem_events kept,
      fun inside => (gone_deleted there whole inside).1.not_mem kept⟩
  · rintro ⟨member, outside⟩
    exact (spares_deleted sound).events e member outside

theorem mem_exceptions_deleted (sound : t.Sound) {x : ExceptionRow} :
    x ∈ (t.deleted id).exceptions ↔ x ∈ t.exceptions ∧ ¬ InSubtree t.events id x.parent := by
  constructor
  · intro kept
    exact ⟨(t.thinsTo_deleted id).mem_exceptions kept,
      fun inside => (gone_deleted there whole inside).2 x kept rfl⟩
  · rintro ⟨member, outside⟩
    have part := (spares_deleted sound).exceptions x.parent (sound.known x member) outside
    have here : x ∈ t.exceptions.filter fun y => y.parent == x.parent :=
      List.mem_filter.mpr ⟨member, beq_self_eq_true _⟩
    rw [← part] at here
    exact (List.mem_filter.mp here).1

end Whole

end Tables

namespace Store

open Tables (InSubtree Spares)

variable {s : Store} {c : Conditions} {id : Int}

theorem spares_putException (sound : s.tables.Sound) (o : Override) :
    s.tables.Spares id (s.call (putException c id o)).2.tables := by
  cases read : s.tables.read c.standpoint id with
  | error fault =>
      rw [putException, s.call_of_unread read]
      exact .refl id s.tables
  | ok e =>
      obtain ⟨notes, outcome⟩ := s.call_putException read o
      rw [outcome]
      cases made : s.tables.replacing id o with
      | error fault => exact Tables.spares_dropped
      | ok result =>
          have put := (Tables.replacing_eq_ok.mp made).2
          exact Tables.spares_dropped.trans sound (Tables.spares_put put)

/-- What removing an exception leaves, or the drop of its stand-in that comes first. -/
theorem spares_settle_removing (sound : s.tables.Sound) (day : Date) (notes : List StoreNote) :
    s.tables.Spares id
      ((s.dropping id day none).settle notes (s.tables.removing id day)).2.tables := by
  cases made : s.tables.removing id day with
  | error fault => exact Tables.spares_dropped
  | ok result =>
      obtain ⟨_, -, rfl⟩ := map_eq_ok.mp made
      exact Tables.spares_removed sound

theorem spares_removeException (sound : s.tables.Sound) (day : Date) :
    s.tables.Spares id (s.call (removeException id day)).2.tables := by
  by_cases fits : fitsWord id = true
  · obtain ⟨notes, outcome⟩ := s.call_removeException fits day
    rw [outcome]
    exact spares_settle_removing sound day notes
  · obtain ⟨fault, beyond⟩ := fails_storedInteger.mpr (Bool.eq_false_iff.mpr fits)
    have failed : s.call (dropReplaced id day none) = (.error fault, s) := by
      rw [dropReplaced, beyond]
      exact call_bind_error _ (call_lift s _)
    rw [removeException, call_bind_error _ failed]
    exact .refl id s.tables

theorem spares_overrideOccurrence (nested : s.tables.Nested) (day : Date) (kind : OverrideKind)
    (title : Option Text) (start finish : Option Moment) :
    s.tables.Spares id (s.call (overrideOccurrence c id day kind title start finish)).2.tables := by
  obtain ⟨notes, left⟩ := s.call_overrideOccurrence c id day kind title start finish
  rw [left]
  cases made : s.tables.standing c id day title start finish with
  | error fault => exact .refl id s.tables
  | ok result =>
      obtain ⟨t, child⟩ := result
      obtain ⟨e, -, made⟩ := bind_eq_ok.mp made
      obtain ⟨⟨begins, ends⟩, -, made⟩ := bind_eq_ok.mp made
      have put := @spares_putException ⟨t, t, notes⟩ c id (nested.sound.added made)
        { date := day, kind, replacement := some (decimalInt child) }
      exact (Tables.spares_added nested made).trans nested.sound put

theorem spares_splitSeries (nested : s.tables.Nested) (day : Date) (rule : Option Rule)
    (title : Option Text) (today : Option Date) :
    s.tables.Spares id (s.call (splitSeries c id day rule title today)).2.tables := by
  obtain ⟨notes, outcome⟩ := s.call_splitSeries c id day rule title today
  rw [outcome]
  cases first : s.tables.shortened c id day rule today with
  | error fault => exact .refl id s.tables
  | ok result =>
      obtain ⟨event, new, ended⟩ := result
      obtain ⟨-, old, -, -, -, last, -, text, -, -, rfl⟩ := Tables.shortened_eq_ok.mp first
      have changed := @Tables.spares_updateEvent s.tables id (Tables.endedRow c old last text)
        (fun _ => rfl) fun _ => rfl
      have between : (s.tables.updateEvent id (Tables.endedRow c old last text)).Nested :=
        nested.updateEvent (fun _ => rfl) fun _ => rfl
      rw [splitLeft]
      cases second : (s.tables.updateEvent id (Tables.endedRow c old last text)).continued c day title
          event new with
      | error fault => exact changed
      | ok made =>
          obtain ⟨⟨start, finish⟩, -, added⟩ := bind_eq_ok.mp second
          exact changed.trans nested.sound (Tables.spares_added between added)

/-- A call on the rule or on the overrides of an event, whether it succeeds or fails, stays in the
subtree of the event. -/
theorem spares_after (nested : s.tables.Nested) {call : Call}
    (on : call.ruled? = some id ∨ call.overridden? = some id) (c : Conditions) :
    s.tables.Spares id (s.after c call).tables := by
  have absent : (none : Option Int) ≠ some id := (Option.some_ne_none id).symm
  cases call with
  | updateRule root rule =>
      obtain rfl := Option.some.inj (on.resolve_right absent)
      obtain ⟨notes, outcome⟩ := s.call_updateRule c root rule
      rw [after, outcome]
      cases made : s.tables.ruled c root rule with
      | error fault => exact .refl root s.tables
      | ok result =>
          obtain ⟨_, -, made⟩ := bind_eq_ok.mp made
          obtain ⟨columns, -, made⟩ := bind_eq_ok.mp made
          obtain ⟨count, -, made⟩ := bind_eq_ok.mp made
          cases made
          exact Tables.spares_updateEvent (fun _ => rfl) fun _ => rfl
  | split _ day rule title today =>
      obtain rfl := Option.some.inj (on.resolve_right absent)
      exact spares_splitSeries nested day rule title today
  | put _ o =>
      obtain rfl := Option.some.inj (on.resolve_left absent)
      exact spares_putException nested.sound o
  | remove _ day =>
      obtain rfl := Option.some.inj (on.resolve_left absent)
      exact spares_removeException nested.sound day
  | modify _ day title start finish =>
      obtain rfl := Option.some.inj (on.resolve_left absent)
      exact spares_overrideOccurrence nested day .modified title start finish
  | move _ day start finish =>
      obtain rfl := Option.some.inj (on.resolve_left absent)
      exact spares_overrideOccurrence nested day .moved none start finish
  | cancel _ day =>
      obtain rfl := Option.some.inj (on.resolve_left absent)
      exact spares_putException nested.sound _
  | restore root day =>
      obtain rfl := Option.some.inj (on.resolve_left absent)
      cases read : s.tables.read c.standpoint root with
      | error fault =>
          rw [after, restoreOccurrence, s.call_of_unread read]
          exact .refl root s.tables
      | ok e =>
          obtain ⟨notes, outcome⟩ := s.call_restoreOccurrence read day
          rw [after, outcome]
          exact spares_settle_removing nested.sound day notes
  | create | add | get | exceptions | occurrences | delete | reopen =>
      exact on.elim (fun ruled => absurd ruled absent) fun overridden => absurd overridden absent

/-- Calls stay in the subtree of their event. In a store that calls lead to, one on the rule or on the
overrides of an event, whether it succeeds or fails, leaves every event that is there outside the
subtree as it was, with its exceptions. Deleting an event removes the subtree with its exceptions and
leaves the other rows as they were. -/
theorem calls_spare_outside (reachable : s.Reachable) :
    (∀ c call, call.ruled? = some id ∨ call.overridden? = some id →
      ∀ e ∈ s.tables.events, ¬ InSubtree s.tables.events id e.id →
        e ∈ (s.after c call).tables.events
          ∧ (s.after c call).tables.exceptions.filter (fun x => x.parent == e.id)
            = s.tables.exceptions.filter fun x => x.parent == e.id)
      ∧ ∀ c s', s.call (deleteSeries c id) = (.ok (), s') →
        (s'.tables.events.Sublist s.tables.events
            ∧ ∀ e, e ∈ s'.tables.events
              ↔ e ∈ s.tables.events ∧ ¬ InSubtree s.tables.events id e.id)
          ∧ s'.tables.exceptions.Sublist s.tables.exceptions
            ∧ ∀ x, x ∈ s'.tables.exceptions
              ↔ x ∈ s.tables.exceptions ∧ ¬ InSubtree s.tables.events id x.parent := by
  have nested := reachable.nested.2
  constructor
  · intro c call on e member outside
    have spared := spares_after nested on c
    have old := (nested.sound.bounded e member).2
    exact ⟨spared.events e member outside, spared.exceptions e.id old outside⟩
  · intro c s' done
    cases read : s.tables.read c.standpoint id with
    | error fault =>
        rw [deleteSeries, s.call_of_unread read] at done
        cases done
    | ok e =>
        obtain ⟨notes, outcome⟩ := s.call_deleteSeries read
        rw [outcome] at done
        obtain ⟨row, there, same, -⟩ := nested.sound.read_eq_ok.mp read
        have present : s.tables.hasEvent id = true := Tables.hasEvent_iff.mpr ⟨row, there, same⟩
        obtain ⟨t, made, rfl⟩ := settle_eq_ok done
        obtain ⟨_, ends, made⟩ := map_eq_ok.mp made
        cases made
        have whole := Deletion.ending_eq_ok.mp ends
        have thin := s.tables.thinsTo_deleted id
        exact ⟨⟨thin.events_sublist, fun e => Tables.mem_events_deleted present whole nested.sound⟩,
          thin.exceptions_sublist,
          fun x => Tables.mem_exceptions_deleted present whole nested.sound⟩

/-- A day of a first series is modified, and so is the event that stands in; a second series is
cancelled on a day. Cancelling the modified day and deleting the first series leave the second one, and
the deletion leaves nothing else. -/
theorem calls_spare_outside_everyDay :
    let start : Moment := ⟨⟨2024, 1, 1, by decide⟩, ⟨9, 0, 0, 0, by decide⟩, none⟩
    let finish : Moment := ⟨⟨2024, 1, 1, by decide⟩, ⟨10, 0, 0, 0, by decide⟩, none⟩
    let day : Date := ⟨2024, 1, 5, by decide⟩
    let series : Call := .create (some ['a']) start finish everyDay none
    let s₃ := ((Store.after {} newYearsEve series).after newYearsEve series).after newYearsEve
      (.cancel 2 day)
    let s := (s₃.after newYearsEve (.modify 1 day none none none)).after newYearsEve
      (.modify 3 day none none none)
    s.tables.events.map (fun e => (e.id, e.parent)) = [(1, none), (2, none), (3, some 1), (4, some 3)]
      ∧ (∀ e ∈ s.tables.events, e.id = 2 →
        e ∈ (s.after newYearsEve (.cancel 1 day)).tables.events
          ∧ (s.after newYearsEve (.cancel 1 day)).tables.exceptions.filter (fun x => x.parent == e.id)
            = s.tables.exceptions.filter fun x => x.parent == e.id)
      ∧ ∃ s', s.call (deleteSeries newYearsEve 1) = (.ok (), s')
        ∧ ∀ e, e ∈ s'.tables.events ↔ e ∈ s.tables.events ∧ e.id = 2 := by
  intro start finish day series s₃ s
  have reachable : s.Reachable :=
    .call _ _ (.call _ _ (.call _ _ (.call _ _ (.call _ _ .start trivial) trivial) trivial) trivial)
      trivial
  have rows : s.tables.events.map (fun e => (e.id, e.parent))
      = [(1, none), (2, none), (3, some 1), (4, some 3)] := by
    decide +kernel
  have deletes : (s.call (deleteSeries newYearsEve 1)).1 = .ok () := by decide +kernel
  clear_value s
  have sound := reachable.sound.2
  have row : ∀ e ∈ s.tables.events,
      (e.id, e.parent) ∈ [((1 : Int), (none : Option Int)), (2, none), (3, some 1), (4, some 3)] :=
    fun e member => rows ▸ List.mem_map_of_mem member
  have outside : ∀ e ∈ s.tables.events, e.id = 2 → ¬ InSubtree s.tables.events 1 e.id := by
    intro e member second
    have told := row e member
    apply Tables.not_inSubtree_of_free sound member
    · simpa [second] using told
    · omega
  have inside : ∀ e ∈ s.tables.events, e.id ≠ 2 → InSubtree s.tables.events 1 e.id := by
    have listed : ((3 : Int), some (1 : Int)) ∈ s.tables.events.map fun e => (e.id, e.parent) := by
      rw [rows]
      decide
    obtain ⟨third, there, same⟩ := List.mem_map.mp listed
    obtain ⟨number, owner⟩ := Prod.mk.injEq .. ▸ same
    have standIn : InSubtree s.tables.events 1 3 := number ▸ .child there owner .root
    intro e member other
    have told := row e member
    simp only [List.mem_cons, Prod.mk.injEq, List.not_mem_nil, or_false] at told
    rcases told with ⟨first, -⟩ | ⟨second, -⟩ | ⟨-, owned⟩ | ⟨-, owned⟩
    · rw [first]
      exact .root
    · exact absurd second other
    · exact .child member owned .root
    · exact .child member owned standIn
  obtain ⟨spared, removed⟩ := @calls_spare_outside s 1 reachable
  refine ⟨rows, ?_, ?_⟩
  · intro e member second
    exact spared newYearsEve (.cancel 1 day) (.inr rfl) e member (outside e member second)
  · refine ⟨(s.call (deleteSeries newYearsEve 1)).2, Prod.ext deletes rfl, ?_⟩
    intro e
    rw [(removed _ _ (Prod.ext deletes rfl)).1.2 e]
    constructor
    · rintro ⟨member, left⟩
      exact ⟨member, Decidable.not_not.mp (mt (inside e member) left)⟩
    · rintro ⟨member, second⟩
      exact ⟨member, outside e member second⟩

end Store

end Recurrence
