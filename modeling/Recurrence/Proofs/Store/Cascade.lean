import Mathlib.Data.List.Pairwise
import Recurrence.Proofs.Store.Tables

/-! Deleting events with what belongs to them, level by level. A deletion takes rows out of the
tables and changes nothing else. What it takes out is in the subtree of an event that it begins with;
if it is whole, it takes out all of these subtrees with their exceptions. -/

namespace Recurrence.Tables

/-- An event, and those that belong to it by way of any number of parents. -/
inductive InSubtree (events : List EventRow) (root : Int) : Int → Prop
  | root : InSubtree events root root
  | child {e : EventRow} {p : Int} :
      e ∈ events → e.parent = some p → InSubtree events root p → InSubtree events root e.id

theorem InSubtree.mono {events fewer : List EventRow} {root i : Int} (h : InSubtree fewer root i)
    (part : ∀ e ∈ fewer, e ∈ events) : InSubtree events root i := by
  induction h with
  | root => exact .root
  | child member owner _ ih => exact .child (part _ member) owner ih

/-- Other tables have some of the rows and nothing else: of the events with one id all or none. -/
structure ThinsTo (t left : Tables) : Prop where
  events : ∃ keep : Int → Bool, left.events = t.events.filter fun e => keep e.id
  exceptions : ∃ keep : ExceptionRow → Bool, left.exceptions = t.exceptions.filter keep
  lastEvent : left.lastEvent = t.lastEvent
  lastException : left.lastException = t.lastException

/-- An event with the id was there and is not any more. -/
structure Gone (t left : Tables) (id : Int) : Prop where
  there : t.hasEvent id = true
  absent : left.hasEvent id = false

/-- What is not any more has a property: an event by its own id, an exception by its parent. -/
structure TakesOnly (P : Int → Prop) (t left : Tables) : Prop where
  events : ∀ e ∈ t.events, e ∉ left.events → P e.id
  exceptions : ∀ x ∈ t.exceptions, x ∉ left.exceptions → P x.parent

/-- What belongs to an event that is gone is gone with it. -/
structure Closes (t left : Tables) : Prop where
  events : ∀ e ∈ t.events, ∀ p, e.parent = some p → t.Gone left p → t.Gone left e.id
  exceptions : ∀ x ∈ t.exceptions, t.Gone left x.parent → x ∉ left.exceptions

variable {t t' left : Tables} {id : Int} {test : EventRow → Bool}

namespace ThinsTo

theorem refl (t : Tables) : t.ThinsTo t where
  events := ⟨fun _ => true, (List.filter_eq_self.mpr fun _ _ => rfl).symm⟩
  exceptions := ⟨fun _ => true, (List.filter_eq_self.mpr fun _ _ => rfl).symm⟩
  lastEvent := rfl
  lastException := rfl

theorem trans (first : t.ThinsTo t') (second : t'.ThinsTo left) : t.ThinsTo left where
  events := by
    obtain ⟨keep, kept⟩ := first.events
    obtain ⟨keep', kept'⟩ := second.events
    exact ⟨fun i => keep' i && keep i, by rw [kept', kept, List.filter_filter]⟩
  exceptions := by
    obtain ⟨keep, kept⟩ := first.exceptions
    obtain ⟨keep', kept'⟩ := second.exceptions
    exact ⟨fun x => keep' x && keep x, by rw [kept', kept, List.filter_filter]⟩
  lastEvent := second.lastEvent.trans first.lastEvent
  lastException := second.lastException.trans first.lastException

theorem events_sublist (h : t.ThinsTo left) : left.events.Sublist t.events := by
  obtain ⟨keep, kept⟩ := h.events
  rw [kept]
  exact List.filter_sublist

theorem exceptions_sublist (h : t.ThinsTo left) : left.exceptions.Sublist t.exceptions := by
  obtain ⟨keep, kept⟩ := h.exceptions
  rw [kept]
  exact List.filter_sublist

theorem mem_events (h : t.ThinsTo left) {e : EventRow} (member : e ∈ left.events) : e ∈ t.events :=
  h.events_sublist.subset member

theorem mem_exceptions (h : t.ThinsTo left) {x : ExceptionRow} (member : x ∈ left.exceptions) :
    x ∈ t.exceptions := h.exceptions_sublist.subset member

theorem hasEvent (h : t.ThinsTo left) (there : left.hasEvent id = true) : t.hasEvent id = true := by
  obtain ⟨e, member, same⟩ := hasEvent_iff.mp there
  exact hasEvent_iff.mpr ⟨e, h.mem_events member, same⟩

theorem absent (h : t.ThinsTo left) (absent : t.hasEvent id = false) : left.hasEvent id = false :=
  Bool.eq_false_iff.mpr fun there => Bool.eq_false_iff.mp absent (h.hasEvent there)

/-- With an event that is taken out its id is gone. -/
theorem gone (h : t.ThinsTo left) {e : EventRow} (member : e ∈ t.events) (out : e ∉ left.events) :
    t.Gone left e.id := by
  obtain ⟨keep, kept⟩ := h.events
  refine ⟨hasEvent_iff.mpr ⟨e, member, rfl⟩, hasEvent_eq_false_iff.mpr ?_⟩
  intro a other same
  rw [kept, List.mem_filter] at out other
  exact out ⟨member, same ▸ other.2⟩

end ThinsTo

theorem Gone.not_mem {e : EventRow} (h : t.Gone left e.id) : e ∉ left.events :=
  fun member => hasEvent_eq_false_iff.mp h.absent e member rfl

theorem TakesOnly.refl (P : Int → Prop) (t : Tables) : t.TakesOnly P t :=
  ⟨fun _ member out => absurd member out, fun _ member out => absurd member out⟩

theorem TakesOnly.trans {P : Int → Prop} (first : t.TakesOnly P t') (second : t'.TakesOnly P left) :
    t.TakesOnly P left where
  events := by
    intro e member out
    by_cases between : e ∈ t'.events
    · exact second.events e between out
    · exact first.events e member between
  exceptions := by
    intro x member out
    by_cases between : x ∈ t'.exceptions
    · exact second.exceptions x between out
    · exact first.exceptions x member between

theorem Closes.refl (t : Tables) : t.Closes t := by
  have never : ∀ i, ¬ t.Gone t i := fun i gone => Bool.false_ne_true (gone.absent.symm.trans gone.there)
  exact ⟨fun _ _ p _ gone => absurd gone (never p), fun _ _ gone => absurd gone (never _)⟩

theorem Closes.trans (first : t.Closes t') (second : t'.Closes left) (thins : t.ThinsTo t')
    (thins' : t'.ThinsTo left) : t.Closes left := by
  have step : ∀ i, t.Gone left i → t.Gone t' i ∨ t'.Gone left i := by
    intro i gone
    cases between : t'.hasEvent i with
    | false => exact .inl ⟨gone.there, between⟩
    | true => exact .inr ⟨between, gone.absent⟩
  refine ⟨?_, ?_⟩
  · intro e member p owner gone
    have there : t.hasEvent e.id = true := hasEvent_iff.mpr ⟨e, member, rfl⟩
    rcases step p gone with early | late
    · exact ⟨there, thins'.absent (first.events e member p owner early).absent⟩
    · by_cases between : e ∈ t'.events
      · exact ⟨there, (second.events e between p owner late).absent⟩
      · exact ⟨there, thins'.absent (thins.gone member between).absent⟩
  · intro x member gone kept
    rcases step x.parent gone with early | late
    · exact first.exceptions x member early (thins'.mem_exceptions kept)
    · exact second.exceptions x (thins'.mem_exceptions kept) late kept

theorem thinsTo_deleteExceptions (t : Tables) (test : ExceptionRow → Bool) :
    t.ThinsTo (t.deleteExceptions test) where
  events := ⟨fun _ => true, (List.filter_eq_self.mpr fun _ _ => rfl).symm⟩
  exceptions := ⟨_, rfl⟩
  lastEvent := rfl
  lastException := rfl

/-! The first step at an event: it goes, and its exceptions do. -/

/-- The tables without an event, and without its exceptions. -/
def without (t : Tables) (id : Int) : Tables :=
  { t with events := t.events.filter fun e => e.id != id }.deleteExceptions fun x => x.parent == id

theorem thinsTo_events (t : Tables) (id : Int) :
    t.ThinsTo { t with events := t.events.filter fun e => e.id != id } where
  events := ⟨fun i => i != id, rfl⟩
  exceptions := ⟨fun _ => true, (List.filter_eq_self.mpr fun _ _ => rfl).symm⟩
  lastEvent := rfl
  lastException := rfl

theorem thinsTo_without (t : Tables) (id : Int) : t.ThinsTo (t.without id) :=
  (t.thinsTo_events id).trans (thinsTo_deleteExceptions _ _)

theorem mem_events_without {e : EventRow} :
    e ∈ (t.without id).events ↔ e ∈ t.events ∧ e.id ≠ id := by
  rw [← bne_iff_ne]
  exact List.mem_filter

theorem mem_exceptions_without {x : ExceptionRow} :
    x ∈ (t.without id).exceptions ↔ x ∈ t.exceptions ∧ x.parent ≠ id := by
  rw [← bne_iff_ne]
  exact List.mem_filter

theorem absent_filter (t : Tables) (id : Int) :
    hasEvent { t with events := t.events.filter fun e => e.id != id } id = false :=
  hasEvent_eq_false_iff.mpr fun _ member => bne_iff_ne.mp (List.mem_filter.mp member).2

theorem absent_without (t : Tables) (id : Int) : (t.without id).hasEvent id = false :=
  absent_filter t id

theorem deleteDown_succ (levels : Nat) (t : Tables) (id : Int) :
    deleteDown (levels + 1) t id
      = deleteEach (deleteDown levels) (t.without id)
          (((t.without id).events.filter fun e => e.parent == some id).map EventRow.id) := rfl

theorem mem_children {i : Int} :
    i ∈ (t.events.filter fun e => e.parent == some id).map EventRow.id
      ↔ ∃ e ∈ t.events, e.parent = some id ∧ e.id = i := by
  simp only [List.mem_map, List.mem_filter, beq_iff_eq, and_assoc]

theorem mem_matched {i : Int} :
    i ∈ (t.events.filter test).map EventRow.id ↔ ∃ e ∈ t.events, test e = true ∧ e.id = i := by
  simp only [List.mem_map, List.mem_filter, and_assoc]

/-! A deletion takes rows out and does nothing else. -/

section Each

variable {delete : Tables → Int → Deletion}

theorem thinsTo_deleteEach (each : ∀ (t : Tables) id, t.ThinsTo (delete t id).left) (ids : List Int)
    (t : Tables) : t.ThinsTo (deleteEach delete t ids).left := by
  induction ids generalizing t with
  | nil => exact .refl t
  | cons id ids ih =>
      rw [deleteEach]
      dsimp only
      split
      · split
        · exact (each t id).trans (ih _)
        · exact each t id
      · exact ih t

theorem takesOnly_deleteEach {P : Int → Prop} {ids : List Int}
    (thins : ∀ (t : Tables) id, t.ThinsTo (delete t id).left)
    (each : ∀ t', t.ThinsTo t' → ∀ id, P id → t'.TakesOnly P (delete t' id).left)
    (held : ∀ id ∈ ids, P id) : t.TakesOnly P (deleteEach delete t ids).left := by
  induction ids generalizing t with
  | nil => exact .refl P t
  | cons id ids ih =>
      have first := each t (.refl t) id (held id List.mem_cons_self)
      have later : ∀ i ∈ ids, P i := fun i member => held i (List.mem_cons_of_mem id member)
      rw [deleteEach]
      dsimp only
      split
      · split
        · exact first.trans (ih (fun t' thin => each t' ((thins t id).trans thin)) later)
        · exact first
      · exact ih each later

/-- Where all are deleted whole, none is left and nothing that belongs to one. -/
theorem closes_deleteEach {ids : List Int} (thins : ∀ (t : Tables) id, t.ThinsTo (delete t id).left)
    (absent : ∀ (t : Tables) id, (delete t id).left.hasEvent id = false)
    (each : ∀ (t : Tables) id, (delete t id).isWhole = true → t.Closes (delete t id).left)
    (whole : (deleteEach delete t ids).isWhole = true) :
    t.Closes (deleteEach delete t ids).left
      ∧ ∀ id ∈ ids, (deleteEach delete t ids).left.hasEvent id = false := by
  induction ids generalizing t with
  | nil => exact ⟨.refl t, nofun⟩
  | cons id ids ih =>
      rw [deleteEach] at whole ⊢
      dsimp only at whole ⊢
      have rest := thinsTo_deleteEach thins ids
      split at whole
      · rename_i there
        rw [if_pos there]
        split at whole
        · rename_i first
          rw [if_pos first]
          obtain ⟨closes, none⟩ := ih whole
          refine ⟨(each t id first).trans closes (thins t id) (rest _), ?_⟩
          intro i member
          rcases List.mem_cons.mp member with rfl | later
          · exact (rest _).absent (absent t i)
          · exact none i later
        · rename_i broken
          exact absurd whole broken
      · rename_i missing
        rw [if_neg missing]
        obtain ⟨closes, none⟩ := ih whole
        refine ⟨closes, ?_⟩
        intro i member
        rcases List.mem_cons.mp member with rfl | later
        · exact (rest t).absent (Bool.eq_false_iff.mpr missing)
        · exact none i later

theorem deleteEach_of_absent {ids : List Int} (absent : ∀ id ∈ ids, t.hasEvent id = false) :
    deleteEach delete t ids = ⟨t, true⟩ := by
  induction ids with
  | nil => rfl
  | cons id ids ih =>
      rw [deleteEach, absent id List.mem_cons_self, if_neg Bool.false_ne_true]
      exact ih fun i member => absent i (List.mem_cons_of_mem id member)

/-- One id that stands in the list any number of times is deleted once. -/
theorem deleteEach_of_only {ids : List Int} (absent : (delete t id).left.hasEvent id = false)
    (there : t.hasEvent id = true) (nonempty : ids ≠ []) (only : ∀ i ∈ ids, i = id) :
    deleteEach delete t ids = delete t id := by
  cases ids with
  | nil => exact absurd rfl nonempty
  | cons i ids =>
      obtain rfl := only i List.mem_cons_self
      have rest : ∀ j ∈ ids, (delete t i).left.hasEvent j = false := fun j member =>
        only j (List.mem_cons_of_mem i member) ▸ absent
      rw [deleteEach, if_pos there]
      dsimp only
      split
      · rename_i whole
        rw [deleteEach_of_absent rest, ← whole]
      · rfl

end Each

theorem thinsTo_deleteDown (levels : Nat) (t : Tables) (id : Int) :
    t.ThinsTo (deleteDown levels t id).left := by
  induction levels generalizing t id with
  | zero => exact t.thinsTo_events id
  | succ levels ih =>
      rw [deleteDown_succ]
      exact (t.thinsTo_without id).trans (thinsTo_deleteEach ih _ _)

theorem absent_deleteDown (levels : Nat) (t : Tables) (id : Int) :
    (deleteDown levels t id).left.hasEvent id = false := by
  cases levels with
  | zero => exact absent_filter t id
  | succ levels =>
      rw [deleteDown_succ]
      exact (thinsTo_deleteEach (thinsTo_deleteDown levels) _ _).absent (t.absent_without id)

theorem thinsTo_deletion (t : Tables) (test : EventRow → Bool) :
    t.ThinsTo (t.deletion test).left :=
  thinsTo_deleteEach (thinsTo_deleteDown deletionLevels) _ t

/-! What is taken out. -/

/-- What an event hands on to all that belongs to it holds of all that goes with it. -/
theorem takesOnly_deleteDown {P : Int → Prop} (levels : Nat) (t : Tables) (id : Int)
    (follows : ∀ e ∈ t.events, ∀ p, e.parent = some p → P p → P e.id) (held : P id) :
    t.TakesOnly P (deleteDown levels t id).left := by
  induction levels generalizing t id with
  | zero =>
      refine ⟨fun e member out => ?_, fun x member out => absurd member out⟩
      have same : e.id = id := by
        by_contra other
        exact out (List.mem_filter.mpr ⟨member, bne_iff_ne.mpr other⟩)
      exact same ▸ held
  | succ levels ih =>
      have first : t.TakesOnly P (t.without id) := by
        refine ⟨fun e member out => ?_, fun x member out => ?_⟩
        · by_cases same : e.id = id
          · exact same ▸ held
          · exact absurd (mem_events_without.mpr ⟨member, same⟩) out
        · by_cases same : x.parent = id
          · exact same ▸ held
          · exact absurd (mem_exceptions_without.mpr ⟨member, same⟩) out
      have follows' : ∀ e ∈ (t.without id).events, ∀ p, e.parent = some p → P p → P e.id :=
        fun e member => follows e (mem_events_without.mp member).1
      rw [deleteDown_succ]
      apply first.trans
      apply takesOnly_deleteEach (thinsTo_deleteDown levels)
      · exact fun t' thin i here => ih t' i (fun e member => follows' e (thin.mem_events member)) here
      · intro i member
        obtain ⟨e, child, owner, rfl⟩ := mem_children.mp member
        exact follows' e child id owner held

/-- What holds of the events that a deletion begins with, and of an event where it holds of its parent,
holds of all that the deletion takes out. -/
theorem takesOnly_deletion {P : Int → Prop} (passes : ∀ e ∈ t.events, test e = true → P e.id)
    (follows : ∀ e ∈ t.events, ∀ p, e.parent = some p → P p → P e.id) :
    t.TakesOnly P (t.deletion test).left := by
  apply takesOnly_deleteEach (thinsTo_deleteDown deletionLevels)
  · exact fun t' thin id held => takesOnly_deleteDown deletionLevels t' id
      (fun e member => follows e (thin.mem_events member)) held
  · intro i member
    obtain ⟨e, there, hit, rfl⟩ := mem_matched.mp member
    exact passes e there hit

theorem inSubtree_deletion :
    t.TakesOnly (fun i => ∃ a ∈ t.events, test a = true ∧ InSubtree t.events a.id i)
      (t.deletion test).left :=
  takesOnly_deletion (fun e member hit => ⟨e, member, hit, .root⟩)
    fun _ member _ owner ⟨a, there, hit, inside⟩ => ⟨a, there, hit, .child member owner inside⟩

theorem deletion_of_none (none : ∀ e ∈ t.events, test e = false) : t.deletion test = ⟨t, true⟩ := by
  have matched : t.events.filter test = [] :=
    List.filter_eq_nil_iff.mpr fun e member => Bool.eq_false_iff.mp (none e member)
  rw [deletion, matched]
  rfl

/-- Where one event passes the test, the deletion is that of the event. -/
theorem deletion_of_only {e : EventRow} (member : e ∈ t.events) (hit : test e = true)
    (only : ∀ a ∈ t.events, test a = true → a.id = e.id) :
    t.deletion test = deleteDown deletionLevels t e.id := by
  apply deleteEach_of_only (absent_deleteDown _ t e.id) (hasEvent_iff.mpr ⟨e, member, rfl⟩)
  · exact List.ne_nil_of_mem (mem_matched.mpr ⟨e, member, hit, rfl⟩)
  · intro i matched
    obtain ⟨a, there, passes, rfl⟩ := mem_matched.mp matched
    exact only a there passes

/-- The first of the events that a deletion begins with is gone in any case. -/
theorem exists_absent_deletion {e : EventRow} (member : e ∈ t.events) (hit : test e = true) :
    ∃ a ∈ t.events, (t.deletion test).left.hasEvent a.id = false := by
  cases matched : t.events.filter test with
  | nil => exact absurd hit (List.filter_eq_nil_iff.mp matched e member)
  | cons a rest =>
      have first : a ∈ t.events.filter test := matched ▸ List.mem_cons_self
      have there := (List.mem_filter.mp first).1
      have gone := absent_deleteDown deletionLevels t a.id
      refine ⟨a, there, ?_⟩
      rw [deletion, matched, List.map_cons, deleteEach, if_pos (hasEvent_iff.mpr ⟨a, there, rfl⟩)]
      dsimp only
      split
      · exact (thinsTo_deleteEach (thinsTo_deleteDown _) _ _).absent gone
      · exact gone

/-! What is taken out if the deletion is whole. -/

theorem closes_deleteDown (levels : Nat) (t : Tables) (id : Int)
    (whole : (deleteDown levels t id).isWhole = true) : t.Closes (deleteDown levels t id).left := by
  induction levels generalizing t id with
  | zero => cases whole
  | succ levels ih =>
      rw [deleteDown_succ] at whole ⊢
      obtain ⟨closes, children⟩ :=
        closes_deleteEach (thinsTo_deleteDown levels) (absent_deleteDown levels) ih whole
      have rest := thinsTo_deleteEach (thinsTo_deleteDown levels)
        (((t.without id).events.filter fun e => e.parent == some id).map EventRow.id) (t.without id)
      have later : ∀ {left : Tables} (p : Int), p ≠ id → t.Gone left p → (t.without id).Gone left p := by
        intro left p other gone
        obtain ⟨a, member, same⟩ := hasEvent_iff.mp gone.there
        exact ⟨hasEvent_iff.mpr ⟨a, mem_events_without.mpr ⟨member, same ▸ other⟩, same⟩, gone.absent⟩
      refine ⟨?_, ?_⟩
      · intro e member p owner gone
        refine ⟨hasEvent_iff.mpr ⟨e, member, rfl⟩, ?_⟩
        by_cases self : e.id = id
        · exact self ▸ rest.absent (t.absent_without id)
        · have left := mem_events_without.mpr ⟨member, self⟩
          by_cases own : p = id
          · exact children e.id (mem_children.mpr ⟨e, left, own ▸ owner, rfl⟩)
          · exact (closes.events e left p owner (later p own gone)).absent
      · intro x member gone kept
        obtain ⟨-, other⟩ := mem_exceptions_without.mp (rest.mem_exceptions kept)
        exact closes.exceptions x (rest.mem_exceptions kept) (later x.parent other gone) kept

section Whole

variable (whole : (t.deletion test).isWhole = true)
include whole

theorem closes_deletion : t.Closes (t.deletion test).left :=
  (closes_deleteEach (thinsTo_deleteDown _) (absent_deleteDown _) (closes_deleteDown _) whole).1

theorem absent_deletion {e : EventRow} (member : e ∈ t.events) (hit : test e = true) :
    (t.deletion test).left.hasEvent e.id = false :=
  (closes_deleteEach (thinsTo_deleteDown _) (absent_deleteDown _) (closes_deleteDown _) whole).2 e.id
    (mem_matched.mpr ⟨e, member, hit, rfl⟩)

/-- The subtrees of the events that it begins with are gone after a deletion. -/
theorem gone_deletion {a : EventRow} (member : a ∈ t.events) (hit : test a = true) {i : Int}
    (inside : InSubtree t.events a.id i) : t.Gone (t.deletion test).left i := by
  induction inside with
  | root => exact ⟨hasEvent_iff.mpr ⟨a, member, rfl⟩, absent_deletion whole member hit⟩
  | child there owner _ ih => exact (closes_deletion whole).events _ there _ owner ih

/-- What is taken out of a table belongs to an event that is gone. -/
theorem gone_of_deletion : t.TakesOnly (t.Gone (t.deletion test).left) (t.deletion test).left where
  events := by
    intro e member out
    obtain ⟨a, there, hit, inside⟩ := inSubtree_deletion.events e member out
    exact gone_deletion whole there hit inside
  exceptions := by
    intro x member out
    obtain ⟨a, there, hit, inside⟩ := inSubtree_deletion.exceptions x member out
    exact gone_deletion whole there hit inside

theorem mem_events_deletion {e : EventRow} :
    e ∈ (t.deletion test).left.events
      ↔ e ∈ t.events ∧ ∀ a ∈ t.events, test a = true → ¬ InSubtree t.events a.id e.id := by
  constructor
  · intro kept
    refine ⟨(t.thinsTo_deletion test).mem_events kept, fun a member hit inside => ?_⟩
    exact (gone_deletion whole member hit inside).not_mem kept
  · rintro ⟨member, outside⟩
    by_contra out
    obtain ⟨a, there, hit, inside⟩ := inSubtree_deletion.events e member out
    exact outside a there hit inside

theorem mem_exceptions_deletion {x : ExceptionRow} :
    x ∈ (t.deletion test).left.exceptions
      ↔ x ∈ t.exceptions ∧ ∀ a ∈ t.events, test a = true → ¬ InSubtree t.events a.id x.parent := by
  constructor
  · intro kept
    have member := (t.thinsTo_deletion test).mem_exceptions kept
    refine ⟨member, fun a there hit inside => ?_⟩
    exact (closes_deletion whole).exceptions x member (gone_deletion whole there hit inside) kept
  · rintro ⟨member, outside⟩
    by_contra out
    obtain ⟨a, there, hit, inside⟩ := inSubtree_deletion.exceptions x member out
    exact outside a there hit inside

end Whole

/-- An event to which nothing belongs is deleted alone. -/
theorem deletion_childless {e : EventRow} (member : e ∈ t.events)
    (hit : ∀ a ∈ t.events, test a = true ↔ a.id = e.id)
    (childless : ∀ a ∈ t.events, a.parent ≠ some e.id) (bare : ∀ x ∈ t.exceptions, x.parent ≠ e.id) :
    t.deletion test = ⟨{ t with events := t.events.filter fun a => a.id != e.id }, true⟩ := by
  have children : ((t.without e.id).events.filter fun a => a.parent == some e.id) = [] := by
    apply List.filter_eq_nil_iff.mpr
    intro a left
    rw [beq_iff_eq]
    exact childless a (mem_events_without.mp left).1
  have exceptions : t.exceptions.filter (fun x => !(x.parent == e.id)) = t.exceptions :=
    List.filter_eq_self.mpr fun x there => bne_iff_ne.mpr (bare x there)
  have levels : deletionLevels = 999 + 1 := rfl
  rw [deletion_of_only member ((hit e member).mpr rfl) fun a there => (hit a there).mp, levels,
    deleteDown_succ, children, List.map_nil, deleteEach, without, deleteExceptions, exceptions]

end Recurrence.Tables
