import Recurrence.Proofs.Store.Atomic
import Recurrence.Proofs.Store.Ending
import Recurrence.Proofs.Store.Telling

/-! Editing the overrides of an event. The table of exceptions does what a set of overrides would do,
day by day and in the order of the days, as long as no exception stands on a day before the year
1000, and no stand-in is too deep: the text of such a day is read as another day, and the exception
of such a stand-in stays. -/

namespace Recurrence

/-- A change of the overrides of an event. -/
inductive Edit
  | put (o : Override)
  | remove (day : Date)
  | cancel (day : Date)
  | restore (day : Date)

namespace Edit

/-- The override that an edit puts, if it puts one. -/
def put? : Edit → Option Override
  | put o => some o
  | cancel day => some { date := day, kind := .cancelled }
  | remove _ | restore _ => none

/-- An edit on a day of the year 1000 or later; the event that stands in, if any, is named by an id
as it is written. -/
def IsStorable : Edit → Prop
  | put o => 1000 ≤ o.date.year
      ∧ ∃ id : Option Int, id.all fitsWord = true ∧ o.replacement = id.map decimalInt
  | remove day | cancel day | restore day => 1000 ≤ day.year

/-- The set of overrides after an edit. -/
def apply (overrides : OverrideSet) : Edit → OverrideSet
  | put o => overrides.put o
  | cancel day => overrides.put { date := day, kind := .cancelled }
  | remove day | restore day => overrides.remove day

/-- What an edit answers: whether there was an override to remove. -/
def answer (overrides : OverrideSet) : Edit → Option Bool
  | put _ | cancel _ => none
  | remove day | restore day => some (overrides.contains day)

def applyAll (overrides : OverrideSet) (edits : List Edit) : OverrideSet := edits.foldl apply overrides

def answers : OverrideSet → List Edit → List (Option Bool)
  | _, [] => []
  | overrides, e :: rest => e.answer overrides :: answers (e.apply overrides) rest

end Edit

namespace Store

/-- An edit of the exceptions of a stored event. -/
def perform (c : Conditions) (id : Int) : Edit → StoreAction (Option Bool)
  | .put o => do
    putException c id o
    return none
  | .remove day => do
    let there ← removeException id day
    return some there
  | .cancel day => do
    cancelOccurrence c id day
    return none
  | .restore day => do
    let there ← restoreOccurrence c id day
    return some there

def performAll (id : Int) : List (Conditions × Edit) → StoreAction (List (Option Bool))
  | [] => return []
  | (c, e) :: rest => do
    let first ← perform c id e
    let later ← performAll id rest
    return first :: later

/-- The exceptions of an event do what a set of overrides does: while there are ids for those that are
put, every list of storable edits succeeds with the answers that the set gives, and afterwards
the overrides that are read are those of the set, in its order. -/
def Refines (s : Store) (id : Int) (overrides : OverrideSet) : Prop :=
  ∀ edits : List (Conditions × Edit), (∀ e ∈ edits, e.2.IsStorable) →
    s.tables.lastException + edits.countP (fun e => e.2.put?.isSome) < wordLimit →
    ∃ s', s.call (performAll id edits) = (.ok (Edit.answers overrides (edits.map Prod.snd)), s')
      ∧ ∀ c, (s'.call (getExceptions c id)).1
        = .ok (Edit.applyAll overrides (edits.map Prod.snd)).toList

end Store

namespace Tables

/-- A child of an event that is too deep to be dropped whole stands in for a day, or can be made to
while an id is left for another exception. -/
def HasDeepStandIn (t : Tables) (id : Int) : Prop :=
  ∃ child ∈ t.events, child.parent = some id ∧ t.IsDeep child.id
    ∧ (¬ t.IsUsedUp ∨ ∃ x ∈ t.exceptions, x.parent = id ∧ x.replacement = some child.id)

/-- The exceptions of an event are those of a set, all on days of the year 1000 or later, and its
stand-ins can be dropped whole. -/
structure Mirrors (row : EventRow) (overrides : OverrideSet) (t : Tables) : Prop where
  unlooped : t.Unlooped
  stores : t.Stores row
  shallow : ¬ t.HasDeepStandIn row.id
  members : ∀ o, o ∈ overrides.toList ↔ ∃ x ∈ t.exceptions, x.parent = row.id ∧ x.Holds o

variable {row : EventRow} {overrides : OverrideSet} {t : Tables} {day : Date} {id : Int}
  {keep : Option Text} {here : DateText.Standpoint}

theorem HasDeepStandIn.of_thins {left : Tables} (h : left.HasDeepStandIn id) (thin : t.ThinsTo left) :
    t.HasDeepStandIn id := by
  obtain ⟨child, member, owned, ⟨i, inner⟩, cause⟩ := h
  refine ⟨child, thin.mem_events member, owned, ⟨i, inner.mono fun e => thin.mem_events⟩, ?_⟩
  rw [IsUsedUp, ← thin.lastException]
  apply cause.imp_right
  rintro ⟨x, there, names⟩
  exact ⟨x, thin.mem_exceptions there, names⟩

theorem not_isUsedUp_of_putException {t' : Tables} {date : Text} {kind : OverrideKind}
    {replacement : Option Int} (made : t.putException id date kind replacement = .ok t') :
    ¬ t.IsUsedUp := by
  intro full
  obtain ⟨fault, failed⟩ := fails_putException.mpr (.inl full)
  cases failed.symm.trans made

theorem Unlooped.isWhole_dropping (h : t.Unlooped) (shallow : ¬ t.HasDeepStandIn id) :
    (t.dropping id day keep).isWhole = true := by
  by_contra broken
  obtain ⟨child, stands, deep⟩ := h.nested.isWhole_dropping_eq_false.mp (Bool.eq_false_iff.mpr broken)
  obtain ⟨⟨x, there, parent, -, names⟩, -⟩ := h.nested.sound.replaced?_eq_some.mp stands.named
  exact shallow ⟨child, stands.member, stands.owned, deep, .inr ⟨x, there, parent, names⟩⟩

/-- The rows of an event are read in the order of their days. -/
theorem Stores.told_ordered (h : t.Stores row) :
    ((t.exceptionsOf row.id).map ExceptionRow.told).Pairwise fun a b => a.date < b.date := by
  have both := (List.pairwise_map.mp h.told_distinct).and (t.exceptionsOf_sorted row.id)
  apply List.pairwise_map.mpr
  apply both.imp_of_mem
  rintro x y hx hy ⟨apart, before⟩
  obtain ⟨there, owned⟩ := mem_exceptionsOf.mp hx
  obtain ⟨there', owned'⟩ := mem_exceptionsOf.mp hy
  have holds := h.holds_told there owned
  have holds' := h.holds_told there' owned'
  rw [holds.date, holds'.date, Date.notAfter_compactText holds.year holds'.year, Date.le_iff] at before
  have other : x.told.date.ordinal ≠ y.told.date.ordinal := mt Date.ordinal_inj.mp apart
  rw [Date.lt_iff]
  omega

theorem Stores.overrides_eq_ok (h : t.Stores row) :
    t.overrides here row.id = .ok ((t.exceptionsOf row.id).map ExceptionRow.told) := by
  have key : storedInteger row.id = .ok row.id :=
    storedInteger_eq_ok.mpr ⟨h.sound.fitsWord_id h.kept, rfl⟩
  rw [Tables.overrides, key, ok_bind, h.mapM_exceptionsOf]

namespace Mirrors

theorem overrides_eq_ok (h : t.Mirrors row overrides) :
    t.overrides here row.id = .ok overrides.toList := by
  rw [h.stores.overrides_eq_ok]
  apply congrArg Except.ok
  apply OverrideSet.toList_eq_of_mem_iff h.stores.told_ordered
  intro o
  rw [h.stores.mem_told, h.members]

/-- Taking rows out leaves the set if the event and its exceptions are left. -/
theorem of_thins {left : Tables} (h : t.Mirrors row overrides) (thin : t.ThinsTo left)
    (kept : row ∈ left.events) (owned : ∀ x ∈ t.exceptions, x.parent = row.id → x ∈ left.exceptions) :
    left.Mirrors row overrides where
  unlooped := h.unlooped.of_thins thin
  stores := h.stores.of_thins thin kept
  shallow := mt (·.of_thins thin) h.shallow
  members := by
    intro o
    rw [h.members]
    constructor
    · rintro ⟨x, member, mine, holds⟩
      exact ⟨x, owned x member mine, mine, holds⟩
    · rintro ⟨x, member, mine, holds⟩
      exact ⟨x, thin.mem_exceptions member, mine, holds⟩

theorem dropped (h : t.Mirrors row overrides) : (t.dropped row.id day keep).Mirrors row overrides :=
  h.of_thins (t.thinsTo_dropping row.id day keep) (h.unlooped.mem_dropped.1 row h.stores.kept rfl)
    h.unlooped.mem_dropped.2

theorem put {t' : Tables} {o : Override} {id : Option Int} (h : t.Mirrors row overrides)
    (year : 1000 ≤ o.date.year) (fits : id.all fitsWord = true)
    (names : o.replacement = id.map decimalInt)
    (made : t.putException row.id o.date.compactText o.kind id = .ok t') :
    t'.Mirrors row (overrides.put o) where
  unlooped := h.unlooped.putException fits made
  stores := h.stores.putException fits (fun _ => year) made
  shallow := by
    obtain ⟨-, events, -⟩ := putException_eq_ok made
    rintro ⟨child, member, owned, deep, -⟩
    rw [IsDeep, events] at deep
    rw [events] at member
    exact h.shallow ⟨child, member, owned, deep, .inl (not_isUsedUp_of_putException made)⟩
  members := by
    obtain ⟨-, kept, ⟨y, there, parent, date, kind, same⟩, only⟩ := putsException made
    intro o'
    rw [OverrideSet.mem_put]
    constructor
    · rintro (rfl | ⟨member, other⟩)
      · exact ⟨y, there, parent, date, year, kind, same ▸ names⟩
      · obtain ⟨x, old, owned, holds⟩ := (h.members o').mp member
        refine ⟨x, kept x old ?_, owned, holds⟩
        rintro ⟨-, today⟩
        exact other (Date.compactText_inj.mp (holds.date.symm.trans today))
    · rintro ⟨x, member, owned, holds⟩
      rcases only x member with ⟨old, other⟩ | ⟨-, day, sort, stand⟩
      · refine .inr ⟨(h.members o').mpr ⟨x, old, owned, holds⟩, ?_⟩
        intro equal
        exact other ⟨owned, holds.date.trans (congrArg Date.compactText equal)⟩
      · have put : x.Holds o := ⟨day, year, sort, names.trans (congrArg _ stand.symm)⟩
        left
        rw [← ExceptionRow.told_of_holds put, ← ExceptionRow.told_of_holds holds]

theorem any_iff_contains (h : t.Mirrors row overrides) :
    (t.exceptions.any fun x => x.parent == row.id && x.date == day.compactText)
      = overrides.contains day := by
  rw [Bool.eq_iff_iff, List.any_eq_true, OverrideSet.contains_iff]
  constructor
  · rintro ⟨x, member, hit⟩
    rw [Bool.and_eq_true, beq_iff_eq, beq_iff_eq] at hit
    have holds := h.stores.holds_told member hit.1
    refine ⟨x.told, (h.members x.told).mpr ⟨x, member, hit.1, holds⟩, ?_⟩
    exact Date.compactText_inj.mp (holds.date.symm.trans hit.2)
  · rintro ⟨o, member, rfl⟩
    obtain ⟨x, there, owned, holds⟩ := (h.members o).mp member
    exact ⟨x, there, by rw [owned, holds.date, beq_self_eq_true, beq_self_eq_true]; rfl⟩

theorem removed (h : t.Mirrors row overrides) :
    (t.removed row.id day).Mirrors row (overrides.remove day) where
  unlooped := h.unlooped.dropped.of_thins (thinsTo_deleteExceptions _ _)
  stores := h.dropped.stores.of_thins (thinsTo_deleteExceptions _ _) h.dropped.stores.kept
  shallow := mt (·.of_thins (thinsTo_deleteExceptions _ _)) h.dropped.shallow
  members := by
    have left : (t.dropped row.id day none).Mirrors row overrides := h.dropped
    intro o
    rw [OverrideSet.mem_remove, left.members]
    constructor
    · rintro ⟨⟨x, member, owned, holds⟩, other⟩
      refine ⟨x, List.mem_filter.mpr ⟨member, ?_⟩, owned, holds⟩
      have apart : x.date ≠ day.compactText :=
        fun same => other (Date.compactText_inj.mp (holds.date.symm.trans same))
      dsimp only
      rw [beq_false_of_ne apart, Bool.and_false]
      rfl
    · rintro ⟨x, member, owned, holds⟩
      obtain ⟨left, kept⟩ := List.mem_filter.mp member
      refine ⟨⟨x, left, owned, holds⟩, ?_⟩
      rintro rfl
      dsimp only at kept
      rw [owned, holds.date, beq_self_eq_true, beq_self_eq_true] at kept
      cases kept

end Mirrors

end Tables

namespace Store

variable {row : EventRow} {overrides : OverrideSet} {s : Store} {c : Conditions} {id : Int}
  {os : List Override} {event : Event}

/-- Putting a storable override does what it does to the set, and uses up one id. -/
theorem put_mirrors {o : Override} (h : s.tables.Mirrors row overrides)
    (read : s.tables.read c.standpoint row.id = .ok event) (storable : (Edit.put o).IsStorable)
    (room : s.tables.lastException + 1 < wordLimit) :
    ∃ s', s.call (putException c row.id o) = (.ok (), s')
      ∧ s'.tables.Mirrors row (overrides.put o)
      ∧ s'.tables.lastException = s.tables.lastException + 1 := by
  obtain ⟨year, id, fits, names⟩ := storable
  have left : (s.tables.dropped row.id o.date o.replacement).Mirrors row overrides := h.dropped
  have there : (s.tables.dropped row.id o.date o.replacement).hasEvent row.id = true :=
    Tables.hasEvent_iff.mpr ⟨row, left.stores.kept, rfl⟩
  have free : fitsWord ((s.tables.dropped row.id o.date o.replacement).lastException + 1) = true := by
    have := h.unlooped.counted
    rw [Tables.lastException_dropped, fitsWord, Bool.and_eq_true, decide_eq_true_iff,
      decide_eq_true_iff]
    omega
  obtain ⟨t', put⟩ := Tables.exists_put fits names there free
  have whole := @Tables.Unlooped.isWhole_dropping s.tables o.date row.id o.replacement h.unlooped h.shallow
  obtain ⟨notes, outcome⟩ := s.call_putException read o
  rw [Tables.replacing_eq_ok.mpr ⟨whole, put⟩] at outcome
  refine ⟨_, outcome, left.put year fits names ?_, ?_⟩
  · exact Tables.putException_of_put fits names put
  · have last := Tables.lastException_put put
    rw [Tables.lastException_dropped] at last
    exact last

/-- Removing an override removes it from the set, and tells whether it was there. -/
theorem remove_mirrors (h : s.tables.Mirrors row overrides) (fits : fitsWord row.id = true) (day : Date) :
    ∃ s', s.call (removeException row.id day) = (.ok (overrides.contains day), s')
      ∧ s'.tables.Mirrors row (overrides.remove day)
      ∧ s'.tables.lastException = s.tables.lastException := by
  have whole := @Tables.Unlooped.isWhole_dropping s.tables day row.id none h.unlooped h.shallow
  have left : (s.tables.dropped row.id day none).Mirrors row overrides := h.dropped
  obtain ⟨notes, outcome⟩ := s.call_removeException fits day
  rw [Tables.removing, @Deletion.ending_eq_ok _ () |>.mpr whole, left.any_iff_contains] at outcome
  exact ⟨_, outcome, h.removed, Tables.lastException_dropped⟩

/-- One edit of the exceptions mirrors the edit of the set. -/
theorem perform_mirrors {edit : Edit} (h : s.tables.Mirrors row overrides)
    (read : s.tables.read c.standpoint row.id = .ok event) (storable : edit.IsStorable)
    (room : edit.put?.isSome = true → s.tables.lastException + 1 < wordLimit) :
    ∃ s', s.call (perform c row.id edit) = (.ok (edit.answer overrides), s')
      ∧ s'.tables.Mirrors row (edit.apply overrides)
      ∧ s'.tables.lastException
        = s.tables.lastException + if edit.put?.isSome = true then 1 else 0 := by
  have puts : ∀ o, (Edit.put o).IsStorable → s.tables.lastException + 1 < wordLimit →
      ∃ s', s.call (do
          putException c row.id o
          return none) = (.ok (none : Option Bool), s')
        ∧ s'.tables.Mirrors row (overrides.put o)
        ∧ s'.tables.lastException = s.tables.lastException + 1 := by
    intro o storable room
    obtain ⟨s', put, rest⟩ := put_mirrors h read storable room
    exact ⟨s', call_bind_ok _ put, rest⟩
  have fits := Tables.fitsWord_of_read read
  cases edit with
  | put o => exact puts o storable (room rfl)
  | cancel day => exact puts _ ⟨storable, none, rfl, rfl⟩ (room rfl)
  | remove day =>
      obtain ⟨s', removed, mirrors, last⟩ := remove_mirrors h fits day
      exact ⟨s', call_bind_ok _ removed, mirrors, last.trans (Int.add_zero _).symm⟩
  | restore day =>
      have found : s.call (getEvent c row.id) = (.ok event, s) := by rw [call_getEvent, read]
      obtain ⟨s', removed, mirrors, last⟩ := remove_mirrors h fits day
      have restored : s.call (restoreOccurrence c row.id day) = (.ok (overrides.contains day), s') :=
        (call_bind_ok _ found).trans removed
      exact ⟨s', call_bind_ok _ restored, mirrors, last.trans (Int.add_zero _).symm⟩

/-- Edit by edit the exceptions go on mirroring the set. -/
theorem performAll_mirrors {edits : List (Conditions × Edit)} (h : s.tables.Mirrors row overrides)
    (readable : ∀ here, ∃ e, Event.ofRow here row = .ok e)
    (storable : ∀ e ∈ edits, e.2.IsStorable)
    (room : s.tables.lastException + edits.countP (fun e => e.2.put?.isSome) < wordLimit) :
    ∃ s', s.call (performAll row.id edits)
        = (.ok (Edit.answers overrides (edits.map Prod.snd)), s')
      ∧ s'.tables.Mirrors row (Edit.applyAll overrides (edits.map Prod.snd)) := by
  induction edits generalizing s overrides with
  | nil => exact ⟨s, rfl, h⟩
  | cons e rest ih =>
      obtain ⟨c, edit⟩ := e
      rw [List.countP_cons] at room
      dsimp only at room
      obtain ⟨event, reading⟩ := readable c.standpoint
      have read : s.tables.read c.standpoint row.id = .ok event :=
        h.stores.sound.read_eq_ok.mpr ⟨row, h.stores.kept, rfl, reading⟩
      have here : edit.put?.isSome = true → s.tables.lastException + 1 < wordLimit := by
        intro puts
        rw [if_pos puts] at room
        omega
      obtain ⟨s₁, first, mirrors, last⟩ :=
        perform_mirrors h read (storable _ List.mem_cons_self) here
      obtain ⟨s₂, later, done⟩ := ih mirrors
        (fun e member => storable e (List.mem_cons_of_mem _ member)) (by
          rw [last]
          split at room
          · rename_i puts
            rw [if_pos puts]
            omega
          · rename_i idle
            rw [if_neg idle]
            omega)
      refine ⟨s₂, ?_, done⟩
      rw [performAll, call_bind_ok _ first, call_bind_ok _ later]
      rfl

theorem refines_of_mirrors (h : s.tables.Mirrors row overrides)
    (readable : ∀ here, ∃ e, Event.ofRow here row = .ok e) : s.Refines row.id overrides := by
  intro edits storable room
  obtain ⟨s', done, mirrors⟩ := performAll_mirrors h readable storable room
  refine ⟨s', done, fun c => ?_⟩
  rw [call_getExceptions, mirrors.overrides_eq_ok]

/-- What removing an override leaves if it succeeds. -/
theorem call_removeException_eq_ok {s' : Store} {day : Date} {there : Bool} (fits : fitsWord id = true)
    (removed : s.call (removeException id day) = (.ok there, s')) :
    (s.tables.dropping id day none).isWhole = true ∧ s'.tables = s.tables.removed id day := by
  obtain ⟨notes, outcome⟩ := s.call_removeException fits day
  obtain ⟨t, made, rfl⟩ := settle_eq_ok (outcome.symm.trans removed)
  obtain ⟨_, ends, made⟩ := map_eq_ok.mp made
  cases made
  exact ⟨Deletion.ending_eq_ok.mp ends, rfl⟩

/-- Where the exceptions do what a set does, the stand-in of a day is dropped whole with the exception of
the day. -/
theorem Refines.remove {day : Date} (refines : s.Refines id overrides) (unlooped : s.tables.Unlooped)
    (fits : fitsWord id = true) (c : Conditions) (year : 1000 ≤ day.year) :
    (s.tables.dropping id day none).isWhole = true
      ∧ (s.tables.removed id day).overrides c.standpoint id = .ok (overrides.remove day).toList := by
  have counted := unlooped.counted
  obtain ⟨s', done, read⟩ := refines [(c, .remove day)]
    (fun e here => List.mem_singleton.mp here ▸ year) (by
      rw [List.countP_cons, List.countP_nil, if_neg (by exact Bool.false_ne_true)]
      omega)
  obtain ⟨_, between, first, rest⟩ := call_bind_eq_ok done
  cases rest
  obtain ⟨there, _, removed, rest⟩ := call_bind_eq_ok first
  cases rest
  obtain ⟨whole, left⟩ := call_removeException_eq_ok fits removed
  have again := read c
  rw [call_getExceptions, left] at again
  exact ⟨whole, again⟩

/-- An exception on a day before the year 1000 is shown on another day, and cannot be removed from
it. -/
theorem not_refines_of_early {x : ExceptionRow} {d : Date} (unlooped : s.tables.Unlooped)
    (fits : fitsWord id = true) (stored : (s.call (getExceptions c id)).1 = .ok os)
    (member : x ∈ s.tables.exceptions) (owned : x.parent = id) (date : x.date = d.compactText)
    (early : d.year < 1000) : ¬ s.Refines id overrides := by
  intro refines
  have key : storedInteger id = .ok id := storedInteger_eq_ok.mpr ⟨fits, rfl⟩
  rw [call_getExceptions, Tables.overrides, key, ok_bind] at stored
  obtain ⟨o, told⟩ := exists_of_mapM_eq_ok stored x
    (Tables.Stores.mem_exceptionsOf.mpr ⟨member, owned⟩)
  -- The day that is read is of the year 1000 or later, so it is not the day of the row.
  have shown : DateText.day? c.standpoint d.compactText = .ok (some o.date) := by
    rw [← date]
    exact ExceptionRow.day?_of_toOverride told
  rw [DateText.day?_eq_retold?] at shown
  have year : 1000 ≤ o.date.year := DateText.year_of_retold? (Except.ok.inj shown)
  have other : x.date ≠ o.date.compactText := by
    rw [date]
    intro equal
    rw [Date.compactText_inj.mp equal] at early
    omega
  have left : x ∈ (s.tables.removed id o.date).exceptions := by
    refine List.mem_filter.mpr ⟨unlooped.mem_dropped.2 x member owned, ?_⟩
    dsimp only
    rw [beq_false_of_ne other, Bool.and_false]
    rfl
  obtain ⟨-, again⟩ := refines.remove unlooped fits c year
  rw [Tables.overrides, key, ok_bind] at again
  obtain ⟨b, shows, still⟩ := exists_mem_of_mapM_eq_ok again x
    (Tables.Stores.mem_exceptionsOf.mpr ⟨left, owned⟩)
  cases told.symm.trans still
  exact (OverrideSet.mem_remove.mp shows).2 rfl

/-- Where a stand-in is deep, its day cannot be restored. -/
theorem not_isWhole_of_names {t : Tables} {x : ExceptionRow} {d : Date} {child : EventRow}
    (unlooped : t.Unlooped) (there : x ∈ t.exceptions) (parent : x.parent = id)
    (date : x.date = d.compactText) (names : x.replacement = some child.id) (member : child ∈ t.events)
    (owned : child.parent = some id) (deep : t.IsDeep child.id) :
    ¬ (t.dropping id d none).isWhole = true := by
  rw [Bool.not_eq_true, unlooped.nested.isWhole_dropping_eq_false]
  refine ⟨child, ⟨member, ?_, owned⟩, deep⟩
  exact unlooped.nested.sound.replaced?_eq_some.mpr ⟨⟨x, there, parent, date, names⟩, nofun⟩

/-- A child that is too deep and stands in for no day is made to: its exception cannot be removed then. -/
theorem not_isWhole_of_put {t t' : Tables} {day : Date} {child : EventRow} {u : Unit}
    (unlooped : t.Unlooped) (member : child ∈ t.events) (owned : child.parent = some id)
    (deep : t.IsDeep child.id)
    (made : t.replacing id ⟨day, .modified, some (decimalInt child.id)⟩ = .ok (t', u)) :
    ¬ (t'.dropping id day none).isWhole = true := by
  have fits : (some child.id).all fitsWord = true := unlooped.nested.sound.fitsWord_id member
  obtain ⟨-, put⟩ := Tables.replacing_eq_ok.mp made
  have written := Tables.putException_of_put fits rfl put
  obtain ⟨-, events, -⟩ := Tables.putException_eq_ok written
  obtain ⟨y, there, parent, date, -, names⟩ := (Tables.putsException written).one
  have kept : ¬ t.StandsIn id day (some (decimalInt child.id)) child :=
    fun stands => (Tables.replaced?_eq_some_iff.mp stands.named).2 rfl
  obtain ⟨left, still⟩ := unlooped.isDeep_dropped member owned kept deep
  rw [Tables.IsDeep, ← events] at still
  exact not_isWhole_of_names (unlooped.dropped.putException fits written) there parent date names
    (events ▸ left) owned still

/-- An exception that names a child which is too deep cannot be removed, and while an id is left one can
be put. -/
theorem not_refines_of_deep (unlooped : s.tables.Unlooped) (fits : fitsWord id = true)
    (read : s.tables.read c.standpoint id = .ok event)
    (late : ∀ x ∈ s.tables.exceptions, x.parent = id → ∃ d : Date, x.date = d.compactText ∧ 1000 ≤ d.year)
    (deep : s.tables.HasDeepStandIn id) : ¬ s.Refines id overrides := by
  intro refines
  obtain ⟨child, member, owned, inner, free | ⟨x, there, parent, names⟩⟩ := deep
  · let day : Date := ⟨2024, 1, 1, by decide⟩
    let o : Override := ⟨day, .modified, some (decimalInt child.id)⟩
    have room : s.tables.lastException + 1 < wordLimit := by
      rw [Tables.IsUsedUp, Bool.not_eq_false, fitsWord, Bool.and_eq_true, decide_eq_true_iff,
        decide_eq_true_iff] at free
      exact free.2
    have storable : ∀ e ∈ [(c, Edit.put o), (c, .remove day)], e.2.IsStorable := by
      rw [List.forall_mem_cons, List.forall_mem_singleton]
      have fits := unlooped.nested.sound.fitsWord_id member
      have year : 1000 ≤ day.year := by decide
      exact ⟨⟨year, some child.id, fits, rfl⟩, year⟩
    obtain ⟨s', done, -⟩ := refines [(c, .put o), (c, .remove day)] storable room
    obtain ⟨_, _, first, rest⟩ := call_bind_eq_ok done
    obtain ⟨u, _, put, same⟩ := call_bind_eq_ok first
    cases same
    obtain ⟨_, _, second, -⟩ := call_bind_eq_ok rest
    obtain ⟨_, _, last, -⟩ := call_bind_eq_ok second
    obtain ⟨there, _, removed, -⟩ := call_bind_eq_ok last
    obtain ⟨notes, outcome⟩ := s.call_putException read o
    obtain ⟨t, made, rfl⟩ := settle_eq_ok (outcome.symm.trans put)
    have whole := (call_removeException_eq_ok fits removed).1
    exact not_isWhole_of_put unlooped member owned inner made whole
  · obtain ⟨d, date, year⟩ := late x there parent
    exact not_isWhole_of_names unlooped there parent date names member owned inner
      (refines.remove unlooped fits c year).1

/-- The exceptions of an event that can be read do what the set of its overrides does, whatever edits
of days of the year 1000 or later follow, exactly where none of them stands on a day before the
year 1000, and no child of the event that is too deep to be dropped stands in or can be made to. -/
theorem refines_iff (run : Reaches Call.AddsNoChild {} s)
    (found : (s.call (getEvent c id)).1 = .ok event)
    (stored : (s.call (getExceptions c id)).1 = .ok os) :
    s.Refines id (OverrideSet.ofList os)
      ↔ (∀ x ∈ s.tables.exceptions, x.parent = id → ∀ d : Date, x.date = d.compactText →
        1000 ≤ d.year) ∧ ¬ s.tables.HasDeepStandIn id := by
  have unlooped := run.unlooped.2
  have legible : s.tables.Legible False := (run.legible nofun).2
  rw [call_getEvent] at found
  obtain ⟨row, there, rfl, reading⟩ := unlooped.nested.sound.read_eq_ok.mp found
  constructor
  · intro refines
    have fits := Tables.fitsWord_of_read found
    have late : ∀ x ∈ s.tables.exceptions, x.parent = row.id → ∀ d : Date, x.date = d.compactText →
        1000 ≤ d.year := by
      intro x member owned d date
      by_contra early
      exact not_refines_of_early unlooped fits stored member owned date (Nat.lt_of_not_le early) refines
    refine ⟨late, fun deep => not_refines_of_deep unlooped fits found (fun x there parent => ?_) deep refines⟩
    obtain ⟨d, date⟩ := legible.days x there
    exact ⟨d, date, late x there parent d date⟩
  · rintro ⟨late, shallow⟩
    have stores : s.tables.Stores row := {
      sound := unlooped.nested.sound
      kept := there
      days := by
        intro x member owned
        obtain ⟨d, date⟩ := legible.days x member
        exact ⟨d, late x member owned d date, date⟩ }
    have mirrors : s.tables.Mirrors row (OverrideSet.ofList os) := by
      refine ⟨unlooped, stores, shallow, ?_⟩
      rw [call_getExceptions, stores.overrides_eq_ok] at stored
      cases stored
      intro o
      rw [OverrideSet.mem_ofList stores.told_distinct, stores.mem_told]
    apply refines_of_mirrors mirrors
    intro here
    obtain ⟨begins, ends, rule, records, -⟩ := legible.records row there
    obtain ⟨start, begun, rest⟩ := bind_eq_ok.mp reading
    obtain ⟨finish, ended, -⟩ := bind_eq_ok.mp rest
    rw [Event.ofRow, begun, ok_bind, ended, ok_bind, Event.endDay?_of_records records, ok_bind]
    exact ⟨_, rfl⟩

theorem exists_getExceptions_chain {n : Nat} (fits : (n : Int) + 1 < wordLimit) :
    ∃ os, ((chain n).call (getExceptions newYearsEve 1)).1 = .ok os := by
  have key : storedInteger 1 = .ok 1 := rfl
  have sound := (chain_run n).sound.2
  rw [call_getExceptions, Tables.overrides, key, ok_bind, exists_mapM_iff]
  intro x member
  obtain ⟨there, -⟩ := Tables.Stores.mem_exceptionsOf.mp member
  have named := there
  rw [tables_chain n fits] at named
  obtain ⟨i, -, rfl⟩ := List.mem_map.mp named
  have told : DateText.day? newYearsEve.standpoint (chainName i).date = .ok (some chainDay) :=
    DateText.day?_compactText (by decide) _
  exact ⟨_, ExceptionRow.toOverride_of_day? told (sound.replacements _ there)⟩

/-- A daily series that is cancelled on 5 January 2024 has exceptions that do what a set does. Had it
been cancelled on 5 January 99, which is read as 1999, they would not, nor do those of a series with a
stand-in that has 1000 levels of events below it. -/
theorem refines_everyDay :
    let start : Moment := ⟨⟨2024, 1, 1, by decide⟩, ⟨9, 0, 0, 0, by decide⟩, none⟩
    let finish : Moment := ⟨⟨2024, 1, 1, by decide⟩, ⟨10, 0, 0, 0, by decide⟩, none⟩
    let late : Override := ⟨⟨2024, 1, 5, by decide⟩, .cancelled, none⟩
    let shown : Override := ⟨⟨1999, 1, 5, by decide⟩, .cancelled, none⟩
    let series := Store.after {} newYearsEve (.create (some ['a']) start finish everyDay none)
    let s := series.after newYearsEve (.cancel 1 ⟨2024, 1, 5, by decide⟩)
    let s' := series.after newYearsEve (.cancel 1 ⟨99, 1, 5, by decide⟩)
    ((s.call (getExceptions newYearsEve 1)).1 = .ok [late] ∧ s.Refines 1 (.ofList [late]))
      ∧ ((s'.call (getExceptions newYearsEve 1)).1 = .ok [shown] ∧ ¬ s'.Refines 1 (.ofList [shown]))
      ∧ ∃ os, ((chain 1001).call (getExceptions newYearsEve 1)).1 = .ok os
        ∧ ¬ (chain 1001).Refines 1 (.ofList os) := by
  intro start finish late shown series s s'
  have made : Reaches Call.AddsNoChild {} series := .call _ _ .start trivial
  have run : Reaches Call.AddsNoChild {} s := .call _ _ made trivial
  have run' : Reaches Call.AddsNoChild {} s' := .call _ _ made trivial
  have there : (s.tables.read newYearsEve.standpoint 1).toOption.isSome = true
      ∧ (s'.tables.read newYearsEve.standpoint 1).toOption.isSome = true := by
    decide +kernel
  have found : ∀ t : Store, (t.tables.read newYearsEve.standpoint 1).toOption.isSome = true →
      ∃ event, (t.call (getEvent newYearsEve 1)).1 = .ok event := by
    intro t there
    rw [call_getEvent]
    cases read : t.tables.read newYearsEve.standpoint 1 with
    | error fault =>
        rw [read] at there
        cases there
    | ok event => exact ⟨event, rfl⟩
  have stored : (s.call (getExceptions newYearsEve 1)).1 = .ok [late] := by decide +kernel
  have stored' : (s'.call (getExceptions newYearsEve 1)).1 = .ok [shown] := by decide +kernel
  have rows : s.tables.exceptions.map (·.date) = [late.date.compactText] := by decide +kernel
  have single : ∀ e ∈ s.tables.events, e.parent = none := by decide +kernel
  have early : ∃ x ∈ s'.tables.exceptions, x.parent = 1
      ∧ x.date = (⟨99, 1, 5, by decide⟩ : Date).compactText := by
    decide +kernel
  clear_value s s'
  obtain ⟨event, read⟩ := found s there.1
  obtain ⟨event', read'⟩ := found s' there.2
  refine ⟨⟨stored, (refines_iff run read stored).mpr ⟨?_, ?_⟩⟩, ⟨stored', ?_⟩, ?_⟩
  · intro x member _ d date
    have same : x.date ∈ [late.date.compactText] := rows ▸ List.mem_map_of_mem member
    rw [List.mem_singleton, date, Date.compactText_inj] at same
    rw [same]
    decide
  · rintro ⟨child, member, owned, -⟩
    cases (single child member).symm.trans owned
  · intro refines
    obtain ⟨x, member, owned, date⟩ := early
    exact absurd (((refines_iff run' read' stored').mp refines).1 x member owned _ date) (by decide)
  · have fits : ((1001 : Nat) : Int) + 2 < wordLimit := by decide
    obtain ⟨os, listed⟩ := @exists_getExceptions_chain 1001 (by decide)
    obtain ⟨⟨top, got⟩, -⟩ := exists_standing_chain fits
    obtain ⟨stands, deep⟩ := @standsIn_chain 1001 (by decide) (by decide)
    have chained := (chain_run 1001).mono fun _ guided => guided.addsNoChild
    generalize chain 1001 = long at listed got stands deep chained ⊢
    have sound := chained.sound.2
    obtain ⟨⟨x, there, parent, -, names⟩, -⟩ := sound.replaced?_eq_some.mp stands.named
    refine ⟨os, listed, fun refines => ?_⟩
    have shallow := ((refines_iff chained (by rw [call_getEvent, got]) listed).mp refines).2
    exact shallow ⟨_, stands.member, stands.owned, deep, .inr ⟨x, there, parent, names⟩⟩

end Store

end Recurrence
