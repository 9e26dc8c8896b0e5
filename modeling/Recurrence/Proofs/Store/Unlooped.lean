import Recurrence.Proofs.Store.Putting

/-! Where no event is added with a parent of the caller's own, no event belongs to itself: what
stands in is younger than what it stands in for. So dropping the stand-in of a day leaves the event
of the day, and its exceptions. -/

namespace Recurrence

namespace Tables

/-- Nested tables in which no event belongs to itself, with a count of exceptions that fits. -/
structure Unlooped (t : Tables) : Prop where
  nested : t.Nested
  apart : ∀ e ∈ t.events, e.parent ≠ some e.id
  counted : 0 ≤ t.lastException ∧ t.lastException < wordLimit

/-- One more event, the youngest, that belongs to an event which is there. -/
structure GainsChild (t : Tables) (id : Int) (row : EventRow) (t' : Tables) : Prop where
  owner : t.hasEvent id = true
  fits : fitsWord row.id = true
  number : row.id = t.lastEvent + 1
  parent : row.parent = some id
  left : t' = { t with events := t.events ++ [row], lastEvent := row.id }

variable {t t' : Tables} {id : Int} {day : Date} {keep : Option Text}

theorem unlooped_empty : Unlooped {} where
  nested := ⟨sound_empty, nofun⟩
  apart := nofun
  counted := by decide

namespace Unlooped

theorem lt_of_parent (h : t.Unlooped) {e : EventRow} {p : Int} (member : e ∈ t.events)
    (owned : e.parent = some p) : p < e.id := by
  have older := h.nested.parents e member p owned
  have other : p ≠ e.id := fun same => h.apart e member (same ▸ owned)
  omega

theorem of_thins (h : t.Unlooped) (thin : t.ThinsTo t') : t'.Unlooped where
  nested := h.nested.of_thins thin
  apart := fun e member => h.apart e (thin.mem_events member)
  counted := thin.lastException ▸ h.counted

theorem updateEvent {change : EventRow → EventRow} (h : t.Unlooped)
    (numbered : ∀ e, (change e).id = e.id) (owned : ∀ e, (change e).parent = e.parent) :
    (t.updateEvent id change).Unlooped where
  nested := h.nested.updateEvent numbered owned
  apart := by
    intro a member
    obtain ⟨e, there, rfl⟩ := List.mem_map.mp member
    split
    · rw [numbered, owned]
      exact h.apart e there
    · exact h.apart e there
  counted := h.counted

theorem insertEvent {row : Int → Except Fault EventRow} (h : t.Unlooped)
    (made : t.insertEvent row = .ok (t', id)) (numbered : ∀ e, row id = .ok e → e.id = id)
    (older : ∀ e, row id = .ok e → ∀ p, e.parent = some p → p ≤ t.lastEvent) : t'.Unlooped where
  nested := h.nested.insertEvent made numbered
  apart := by
    obtain ⟨-, number, e, given, rfl⟩ := insertEvent_eq_ok made
    intro a member owned
    rcases List.mem_append.mp member with old | new
    · exact h.apart a old owned
    · rw [List.mem_singleton.mp new, numbered e given] at owned
      have := older e given id owned
      omega
  counted := by
    obtain ⟨-, -, e, -, rfl⟩ := insertEvent_eq_ok made
    exact h.counted

theorem putException {parent : Int} {date : Text} {kind : OverrideKind} {replacement : Option Int}
    (h : t.Unlooped) (fits : replacement.all fitsWord = true)
    (made : t.putException parent date kind replacement = .ok t') : t'.Unlooped where
  nested := h.nested.putException fits made
  apart := by
    obtain ⟨-, events, -⟩ := putException_eq_ok made
    rw [events]
    exact h.apart
  counted := by
    have room : fitsWord (t.lastException + 1) = true := by
      by_contra full
      obtain ⟨fault, failed⟩ := fails_putException.mpr (.inl (Bool.eq_false_iff.mpr full))
      cases failed.symm.trans made
    have counted := h.counted
    rw [fitsWord, Bool.and_eq_true, decide_eq_true_iff, decide_eq_true_iff] at room
    have last := (putsException made).last
    omega

theorem dropped (h : t.Unlooped) : (t.dropped id day keep).Unlooped :=
  h.of_thins (t.thinsTo_dropping id day keep)

/-- Only events that are younger than the event of the day go with the stand-in, and the exceptions of
these. -/
theorem takes_dropping (h : t.Unlooped) :
    t.TakesOnly (id < ·) (t.dropping id day keep).left := by
  have younger : ∀ i, (∃ child, t.StandsIn id day keep child ∧ child.id ≤ i) → id < i := by
    rintro i ⟨child, stands, le⟩
    exact Int.lt_of_lt_of_le (h.lt_of_parent stands.member stands.owned) le
  have taken : t.TakesOnly _ (t.dropping id day keep).left := h.nested.takes_dropping
  exact ⟨fun e member out => younger e.id (taken.events e member out),
    fun x member out => younger x.parent (taken.exceptions x member out)⟩

/-- Dropping the stand-in of a day of an event leaves the event and its exceptions. -/
theorem mem_dropped (h : t.Unlooped) :
    (∀ e ∈ t.events, e.id = id → e ∈ (t.dropped id day keep).events)
      ∧ ∀ x ∈ t.exceptions, x.parent = id → x ∈ (t.dropped id day keep).exceptions := by
  constructor
  · rintro e member rfl
    by_contra out
    exact Int.lt_irrefl e.id (h.takes_dropping.events e member out)
  · rintro x member rfl
    by_contra out
    exact Int.lt_irrefl x.parent (h.takes_dropping.exceptions x member out)

/-- Dropping the stand-in of a day leaves the other children of the event, with all below them. -/
theorem isDeep_dropped {child : EventRow} (h : t.Unlooped) (member : child ∈ t.events)
    (owned : child.parent = some id) (other : ¬ t.StandsIn id day keep child)
    (deep : t.IsDeep child.id) :
    child ∈ (t.dropped id day keep).events ∧ (t.dropped id day keep).IsDeep child.id := by
  by_cases one : ∃ old, t.StandsIn id day keep old
  · obtain ⟨old, stands⟩ := one
    have apart : child.id ≠ old.id := by
      intro same
      cases h.nested.sound.eq_of_id member stands.member same
      exact other stands
    have elder := h.lt_of_parent stands.member stands.owned
    -- What is at the child or below it is younger than the event, and the stand-in is not of it.
    let P : Int → Prop := fun i => id < i ∧ ¬ InSubtree t.events old.id i
    have first : P child.id := by
      refine ⟨h.lt_of_parent member owned, h.nested.outside member owned apart fun inside => ?_⟩
      exact absurd (h.nested.le_of_inSubtree inside) (Int.not_le.mpr elder)
    have passes : ∀ e ∈ t.events, ∀ p, e.parent = some p → P p → P e.id := by
      rintro e there p parent ⟨later, outside⟩
      refine ⟨Int.lt_of_lt_of_le later (h.nested.parents e there p parent),
        h.nested.outside there parent (fun same => ?_) outside⟩
      cases h.nested.sound.eq_of_id there stands.member same
      cases parent.symm.trans stands.owned
      exact Int.lt_irrefl _ later
    have kept : ∀ e ∈ t.events, P e.id → e ∈ (t.dropped id day keep).events := by
      intro e there own
      by_contra out
      rw [Tables.dropped, stands.dropping_eq] at out
      exact own.2 ((inSubtree_deleteDown _ t old.id).events e there out)
    obtain ⟨i, inner⟩ := deep
    exact ⟨kept child member first, i, inner.part first (fun e there p parent _ => passes e there p parent) kept⟩
  · rw [Tables.dropped, dropping_of_none fun old stands => one ⟨old, stands⟩]
    exact ⟨member, deep⟩

theorem added {c : Conditions} {title : Option Text} {start finish : Moment} {rule : Option Rule}
    {parent : Option Int} (h : t.Unlooped)
    (made : t.added c title start finish rule parent = .ok (t', id))
    (older : ∀ p, parent = some p → p ≤ t.lastEvent) : t'.Unlooped := by
  obtain ⟨columns, -, made⟩ := bind_eq_ok.mp made
  obtain ⟨count, -, made⟩ := bind_eq_ok.mp made
  obtain ⟨owner, same, made⟩ := bind_eq_ok.mp made
  obtain ⟨-, rfl⟩ := storedInteger?_eq_ok.mp same
  apply h.insertEvent made
  · exact fun e given => (newRow_eq_ok given).1
  · exact fun e given p owned => older p ((newRow_eq_ok given).2.1.symm.trans owned)

end Unlooped

/-- An event that is to stand in is the youngest, belongs to the event of the day, and lasts as it was
to. -/
theorem Unlooped.standing_span {c : Conditions} {title : Option Text} {start finish : Option Moment}
    {child : Int} (h : t.Unlooped)
    (made : t.standing c id day title start finish = .ok (t', child)) :
    ∃ row, row.id = child ∧ t.GainsChild id row t' ∧ ∃ e begins ends, t.read c.standpoint id = .ok e
      ∧ e.standInSpan day start finish = .ok (begins, ends)
      ∧ row.start = begins.compactText ∧ row.finish = ends.compactText := by
  obtain ⟨event, read, made⟩ := bind_eq_ok.mp made
  obtain ⟨⟨begins, ends⟩, span, made⟩ := bind_eq_ok.mp made
  obtain ⟨owner, there, rfl, -⟩ := h.nested.sound.read_eq_ok.mp read
  obtain ⟨columns, row, -, -, fits, number, new, rfl⟩ := added_eq_ok made
  obtain ⟨rfl, owned, begun, ended⟩ := newRow_eq_ok new
  exact ⟨row, rfl, ⟨hasEvent_iff.mpr ⟨owner, there, rfl⟩, fits, number, owned, rfl⟩,
    event, begins, ends, read, span, begun, ended⟩

theorem Unlooped.standing {c : Conditions} {title : Option Text} {start finish : Option Moment}
    {child : Int} (h : t.Unlooped)
    (made : t.standing c id day title start finish = .ok (t', child)) :
    ∃ row, row.id = child ∧ t.GainsChild id row t' := by
  obtain ⟨row, same, gains, -⟩ := h.standing_span made
  exact ⟨row, same, gains⟩

/-! What is added for a day does not go with what stood in for the day before. -/

namespace GainsChild

variable {row old : EventRow}

theorem mem_iff (gains : t.GainsChild id row t') {e : EventRow} :
    e ∈ t'.events ↔ e ∈ t.events ∨ e = row := by
  rw [gains.left, List.mem_append, List.mem_singleton]

variable (h : t.Unlooped) (gains : t.GainsChild id row t')
include h gains

/-- A child is added as any event is. -/
theorem unlooped : t'.Unlooped := by
  have made : t.insertEvent (fun _ => .ok row) = .ok (t', row.id) := by
    rw [insertEvent, nextId_eq_ok.mpr ⟨gains.number ▸ gains.fits, rfl⟩, ok_bind, ok_bind, gains.parent,
      Option.all_some, gains.owner, Bool.or_true, if_pos rfl, gains.left, gains.number]
  apply h.insertEvent made
  · rintro e ⟨⟩
    rfl
  · rintro e ⟨⟩ p owned
    cases gains.parent.symm.trans owned
    obtain ⟨owner, there, rfl⟩ := hasEvent_iff.mp gains.owner
    exact (h.nested.sound.bounded owner there).2

theorem lt_row {e : EventRow} (member : e ∈ t.events) : e.id < row.id := by
  have := (h.nested.sound.bounded e member).2
  have := gains.number
  omega

/-- What an override that names the new child has to know of it. -/
theorem tied : ∀ m, some row.id = some m →
    m ≤ t'.lastEvent ∧ ∀ e ∈ t'.events, e.id = m → e.parent = some id := by
  rintro _ ⟨⟩
  refine ⟨by rw [gains.left], fun e member same => ?_⟩
  rcases gains.mem_iff.mp member with old | rfl
  · exact absurd same (Int.ne_of_lt (gains.lt_row h old))
  · exact gains.parent

theorem standsIn_iff :
    t'.StandsIn id day (some (decimalInt row.id)) old ↔ t.StandsIn id day none old := by
  have same : t'.exceptions = t.exceptions := gains.left ▸ rfl
  constructor
  · rintro ⟨member, named, owned⟩
    obtain ⟨there, other⟩ := replaced?_eq_some_iff.mp named
    rw [exceptionOn?, same] at there
    refine ⟨(gains.mem_iff.mp member).resolve_right ?_, replaced?_eq_some_iff.mpr ⟨there, nofun⟩, owned⟩
    exact fun new => other (new ▸ rfl)
  · rintro ⟨member, named, owned⟩
    obtain ⟨there, -⟩ := replaced?_eq_some_iff.mp named
    rw [exceptionOn?, ← same] at there
    refine ⟨gains.mem_iff.mpr (.inl member), replaced?_eq_some_iff.mpr ⟨there, ?_⟩, owned⟩
    intro kept
    exact Int.ne_of_lt (gains.lt_row h member) (decimalInt_inj (Option.some.inj kept)).symm

variable (member : old ∈ t.events) (owned : old.parent = some id)
include member owned

/-- What is at or below another child is not the new one. -/
theorem passes_below : ∀ e ∈ t'.events, ∀ p, e.parent = some p → old.id ≤ p ∧ p ≠ row.id →
    old.id ≤ e.id ∧ e.id ≠ row.id := by
  rintro e there p parent ⟨below, -⟩
  rcases gains.mem_iff.mp there with before | rfl
  · have := h.lt_of_parent before parent
    exact ⟨by omega, Int.ne_of_lt (gains.lt_row h before)⟩
  · have older := h.lt_of_parent member owned
    cases parent.symm.trans gains.parent
    omega

theorem isDeep_iff : t'.IsDeep old.id ↔ t.IsDeep old.id := by
  apply exists_congr
  intro i
  constructor
  · intro inner
    apply inner.part (P := fun i => old.id ≤ i ∧ i ≠ row.id)
      ⟨Int.le_refl _, Int.ne_of_lt (gains.lt_row h member)⟩
    · exact fun e there p parent _ => gains.passes_below h member owned e there p parent
    · exact fun e there other => (gains.mem_iff.mp there).resolve_right fun new => other.2 (new ▸ rfl)
  · exact fun inner => inner.mono fun e there => gains.mem_iff.mpr (.inl there)

omit member owned in
theorem row_mem_dropped : row ∈ (t'.dropped id day (some (decimalInt row.id))).events := by
  have there : row ∈ t'.events := gains.mem_iff.mpr (.inr rfl)
  by_cases one : ∃ old, t'.StandsIn id day (some (decimalInt row.id)) old
  · obtain ⟨old, stands⟩ := one
    have before := (gains.standsIn_iff h).mp stands
    have taken := takesOnly_deleteDown deletionLevels t' old.id
      (gains.passes_below h before.member before.owned)
      ⟨Int.le_refl _, Int.ne_of_lt (gains.lt_row h before.member)⟩
    by_contra out
    rw [dropped, stands.dropping_eq] at out
    exact (taken.events row there out).2 rfl
  · rw [dropped, dropping_of_none fun old stands => one ⟨old, stands⟩]
    exact there

end GainsChild

end Tables

namespace Store

open Tables (Unlooped)

/-- A call that adds no event with a parent that the caller names. -/
def Call.AddsNoChild : Call → Prop
  | add _ _ _ _ parent => parent = none
  | _ => True

/-- A call that leaves it to the store to add, name and drop the events that stand in. -/
def Call.IsGuided : Call → Prop
  | add .. | put .. | remove .. | reopen => False
  | _ => True

theorem Call.IsGuided.addsNoChild {call : Call} (guided : call.IsGuided) : call.AddsNoChild := by
  cases call with
  | add => exact guided.elim
  | _ => trivial

variable {call : Call} {s : Store}

/-- What overriding an occurrence leaves where the event that is to stand in was added: its override, or
that event without one. -/
theorem call_of_standing {c : Conditions} {id : Int} {day : Date} (unlooped : s.tables.Unlooped) (kind : OverrideKind) {title : Option Text}
    {start finish : Option Moment} {t : Tables} {child : Int}
    (made : s.tables.standing c id day title start finish = .ok (t, child)) :
    ∃ notes, s.call (overrideOccurrence c id day kind title start finish)
      = match t.replacing id { date := day, kind, replacement := some (decimalInt child) } with
        | .error fault => (.error fault, ⟨t, t.dropped id day (some (decimalInt child)), notes⟩)
        | .ok (t', _) => (.ok child, ⟨t', t', notes⟩) := by
  obtain ⟨e, read, -⟩ := bind_eq_ok.mp made
  obtain ⟨row, rfl, gains⟩ := unlooped.standing made
  have after := gains.unlooped unlooped
  have again := unlooped.nested.sound.read_of_subset after.nested.sound
    (fun a member => gains.mem_iff.mpr (.inl member)) read
  let o : Override := { date := day, kind, replacement := some (decimalInt row.id) }
  obtain ⟨notes, left⟩ := s.call_overrideOccurrence c id day kind title start finish
  obtain ⟨notes', outcome⟩ := Store.call_putException ⟨t, t, notes⟩ again o
  refine ⟨notes', ?_⟩
  rw [left, made]
  dsimp only
  rw [outcome]
  cases t.replacing id o <;> rfl

/-- What is written without adding a child keeps the tables unlooped. -/
theorem Call.Makes.keeps_unlooped {w : Write} (made : call.Makes w)
    (alone : ∀ p, call.owner? = some p → p = none) : w.Keeps Unlooped := by
  intro t t' h applied
  cases made with
  | insert row owner =>
      have free : row.parent = none := alone row.parent owner
      obtain ⟨⟨after, id⟩, inserted, rfl⟩ := map_eq_ok.mp applied
      apply h.insertEvent inserted
      · rintro e ⟨⟩
        rfl
      · rintro e ⟨⟩ p owned
        cases free.symm.trans owned
  | setRule =>
      cases applied
      exact h.updateEvent (fun _ => rfl) fun _ => rfl
  | put _ _ _ _ _ _ fits => exact h.putException fits applied
  | dropChild | deleteChildren | deleteEvent =>
      cases applied
      exact h.of_thins (t.thinsTo_deletion _)
  | removeException | deleteOwn =>
      cases applied
      exact h.of_thins (t.thinsTo_deleteExceptions _)

/-- An event that is to stand in is younger than the one it is added for. -/
theorem Holds.overridden (held : s.Holds Unlooped) (c : Conditions) (id : Int) (day : Date)
    (kind : OverrideKind) (title : Option Text) (start finish : Option Moment) :
    (s.call (overrideOccurrence c id day kind title start finish)).2.Holds Unlooped := by
  obtain ⟨notes, left⟩ := s.call_overrideOccurrence c id day kind title start finish
  rw [left]
  cases made : s.tables.standing c id day title start finish with
  | error fault => exact held
  | ok result =>
      obtain ⟨t, child⟩ := result
      obtain ⟨row, rfl, gains⟩ := held.2.standing made
      have added := gains.unlooped held.2
      have both : Holds Unlooped ⟨t, t, notes⟩ := ⟨added, added⟩
      exact @Holds.after Unlooped ⟨t, t, notes⟩
        (.put id { date := day, kind, replacement := some (decimalInt row.id) }) both c
        fun w made => made.keeps_unlooped nofun

/-- After a call that adds no child no event belongs to itself, if none did before. -/
theorem Holds.unlooped (held : s.Holds Unlooped) (c : Conditions) (alone : call.AddsNoChild) :
    (s.after c call).Holds Unlooped := by
  cases call with
  | modify id day title start finish => exact held.overridden c id day .modified title start finish
  | move id day start finish => exact held.overridden c id day .moved none start finish
  | add title start finish rule parent =>
      apply held.after c
      intro w made
      apply made.keeps_unlooped
      rintro p ⟨⟩
      exact alone
  | _ =>
      apply held.after c
      intro w made
      apply made.keeps_unlooped
      intro p owner
      cases owner <;> rfl

/-- In a store that calls lead to which add no child, no event belongs to itself. -/
theorem Reaches.unlooped (run : Reaches Call.AddsNoChild {} s) : s.Holds Unlooped := by
  induction run with
  | start => exact ⟨Tables.unlooped_empty, Tables.unlooped_empty⟩
  | call c call _ alone ih => exact ih.unlooped c alone

end Store

end Recurrence
