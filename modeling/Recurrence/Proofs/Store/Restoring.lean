import Recurrence.Proofs.Store.Putting

/-! Overriding one day of an event over and over, and restoring it in the end. Whatever the kinds of
the overrides and whether they fail, all they have added at any time is one exception and the event
that stands in, and both go with the restored day. -/

namespace Recurrence

namespace Tables

/-- Tables to which overrides of one day have been added: an exception of the day, the event that it
names, and one that is to stand in next. -/
structure Overlays (base : Tables) (id : Int) (day : Date) (standIn loose : Option EventRow)
    (x : Option ExceptionRow) (t : Tables) : Prop where
  sound : t.Sound
  counted : 0 ≤ t.lastException
  last : base.lastEvent ≤ t.lastEvent
  events : t.events = base.events ++ standIn.toList ++ loose.toList
  exceptions : t.exceptions = base.exceptions ++ x.toList
  onDay : ∀ y, x = some y → y.parent = id ∧ y.date = day.compactText
    ∧ y.replacement = standIn.map EventRow.id
  named : x = none → standIn = none
  younger : ∀ e, standIn = some e ∨ loose = some e →
    e.parent = some id ∧ id ≤ base.lastEvent ∧ base.lastEvent < e.id

variable {base t t' : Tables} {id : Int} {day : Date} {keep : Option Text}

namespace Overlays

variable {standIn loose : Option EventRow} {x : Option ExceptionRow}

theorem refl (nested : base.Nested) (counted : 0 ≤ base.lastException) :
    base.Overlays id day none none none base where
  sound := nested.sound
  counted := counted
  last := Int.le_refl _
  events := by rw [Option.toList_none, List.append_nil, List.append_nil]
  exceptions := by rw [Option.toList_none, List.append_nil]
  onDay := nofun
  named := fun _ => rfl
  younger := by rintro e (⟨⟨⟩⟩ | ⟨⟨⟩⟩)

theorem mem_of_standIn {e : EventRow} (h : base.Overlays id day standIn loose x t)
    (stands : standIn = some e) : e ∈ t.events := by
  rw [h.events, stands]
  exact List.mem_append_left _ (List.mem_append_right _ List.mem_cons_self)

theorem mem_of_loose {e : EventRow} (h : base.Overlays id day standIn loose x t)
    (next : loose = some e) : e ∈ t.events := by
  rw [h.events, next]
  exact List.mem_append_right _ List.mem_cons_self

theorem fits_loose (h : base.Overlays id day standIn loose x t) :
    (loose.map EventRow.id).all fitsWord = true := by
  rw [Option.all_map, Option.all_eq_true]
  exact fun e next => h.sound.fitsWord_id (h.mem_of_loose next)

/-- What is to stand in next is younger than what stands in. -/
theorem id_lt {e new : EventRow} (h : base.Overlays id day standIn loose x t)
    (stands : standIn = some e) (next : loose = some new) : e.id < new.id := by
  have ids := h.sound.ids
  rw [h.events, stands, next] at ids
  exact (List.pairwise_append.mp ids).2.2 e (List.mem_append_right _ List.mem_cons_self) new
    List.mem_cons_self

/-- The event whose day is overridden was there before. -/
theorem exists_of_read (h : base.Overlays id day standIn loose x t) {here : DateText.Standpoint}
    {e : Event} (read : t.read here id = .ok e) : ∃ row ∈ base.events, row.id = id := by
  obtain ⟨row, there, same, -⟩ := h.sound.read_eq_ok.mp read
  have older : ∀ a, standIn = some a ∨ loose = some a → a.id ≠ id := by
    intro a new
    have := (h.younger a new).2
    omega
  rw [h.events] at there
  rcases List.mem_append.mp there with there | next
  · rcases List.mem_append.mp there with before | here
    · exact ⟨row, before, same⟩
    · exact absurd same (older row (.inl (Option.mem_toList.mp here)))
  · exact absurd same (older row (.inr (Option.mem_toList.mp next)))

/-! What stands in is younger than what was there before, so nothing hangs on it. -/

section

variable {e : EventRow} (nested : base.Nested) (h : base.Overlays id day standIn loose x t)
  (stands : standIn = some e)
include nested h stands

theorem older {a : EventRow} (before : a ∈ base.events) : a.id ≠ e.id ∧ a.parent ≠ some e.id := by
  obtain ⟨-, old, young⟩ := h.younger e (.inl stands)
  have bound := (nested.sound.bounded a before).2
  refine ⟨by omega, ?_⟩
  intro owned
  have := nested.parents a before e.id owned
  omega

theorem childless : ∀ a ∈ t.events, a.parent ≠ some e.id := by
  obtain ⟨-, old, young⟩ := h.younger e (.inl stands)
  have added : ∀ a, standIn = some a ∨ loose = some a → a.parent ≠ some e.id := by
    intro a new owned
    have := Option.some.inj ((h.younger a new).1.symm.trans owned)
    omega
  intro a there
  rw [h.events] at there
  rcases List.mem_append.mp there with there | next
  · rcases List.mem_append.mp there with before | here
    · exact (h.older nested stands before).2
    · exact added a (.inl (Option.mem_toList.mp here))
  · exact added a (.inr (Option.mem_toList.mp next))

theorem bare : ∀ y ∈ t.exceptions, y.parent ≠ e.id := by
  obtain ⟨-, old, young⟩ := h.younger e (.inl stands)
  intro y there
  rw [h.exceptions] at there
  rcases List.mem_append.mp there with before | here
  · have := nested.sound.known y before
    omega
  · have := (h.onDay y (Option.mem_toList.mp here)).1
    omega

theorem events_without :
    t.events.filter (fun a => a.id != e.id) = base.events ++ loose.toList := by
  have kept : base.events.filter (fun a => a.id != e.id) = base.events :=
    List.filter_eq_self.mpr fun a there => bne_iff_ne.mpr (h.older nested stands there).1
  have next : loose.toList.filter (fun a => a.id != e.id) = loose.toList := by
    apply List.filter_eq_self.mpr
    intro a there
    have := h.id_lt stands (Option.mem_toList.mp there)
    exact bne_iff_ne.mpr (by omega)
  rw [h.events, stands, Option.toList_some, List.filter_append, List.filter_append, kept, next,
    List.filter_singleton, bne_self_eq_false, cond_false, List.append_nil]

end

section

variable (plain : ∀ x ∈ base.exceptions, ¬(x.parent = id ∧ x.date = day.compactText))
include plain

theorem replaced?_eq (h : base.Overlays id day standIn loose x t)
    (keeps : keep = (loose.map EventRow.id).map decimalInt) :
    t.replaced? id day keep = standIn.map EventRow.id := by
  apply Option.ext
  intro old
  rw [h.sound.replaced?_eq_some, h.exceptions]
  constructor
  · rintro ⟨⟨y, member, parent, date, names⟩, -⟩
    rcases List.mem_append.mp member with before | here
    · exact absurd ⟨parent, date⟩ (plain y before)
    · rw [← (h.onDay y (Option.mem_toList.mp here)).2.2]
      exact names
  · intro same
    obtain ⟨e, stands, rfl⟩ := Option.map_eq_some_iff.mp same
    cases there : x with
    | none => cases (h.named there).symm.trans stands
    | some y =>
        obtain ⟨parent, date, names⟩ := h.onDay y there
        refine ⟨⟨y, List.mem_append_right _ List.mem_cons_self, parent, date, names.trans same⟩, ?_⟩
        rw [keeps]
        intro kept
        obtain ⟨_, named, text⟩ := Option.map_eq_some_iff.mp kept
        obtain ⟨new, next, rfl⟩ := Option.map_eq_some_iff.mp named
        have number := decimalInt_inj text
        have := h.id_lt stands next
        omega

/-- The stand-in of the day is dropped alone, and so whole. -/
theorem dropping_eq (nested : base.Nested) (h : base.Overlays id day standIn loose x t)
    (keeps : keep = (loose.map EventRow.id).map decimalInt) :
    t.dropping id day keep = ⟨{ t with events := base.events ++ loose.toList }, true⟩ := by
  rw [dropping, h.replaced?_eq plain keeps]
  cases stands : standIn with
  | none =>
      have listed := h.events
      rw [stands, Option.toList_none, List.append_nil] at listed
      rw [← listed]
      rfl
  | some e =>
      rw [Option.map_some]
      dsimp only
      rw [deletion_childless (h.mem_of_standIn stands) _ (h.childless nested stands)
        (h.bare nested stands), h.events_without nested stands]
      intro a there
      rw [Bool.and_eq_true, beq_iff_eq, beq_iff_eq]
      refine ⟨And.left, fun same => ⟨same, ?_⟩⟩
      rw [h.sound.eq_of_id there (h.mem_of_standIn stands) same]
      exact (h.younger e (.inl stands)).1

/-- The exception of the day is the last one, whether the day had one or not. -/
theorem exceptions_putException (h : base.Overlays id day standIn loose x t) {t₀ : Tables}
    {kind : OverrideKind} {replacement : Option Int} (same : t₀.exceptions = t.exceptions)
    (made : t₀.putException id day.compactText kind replacement = .ok t') :
    ∃ y, t'.exceptions = base.exceptions ++ [y] ∧ y.parent = id ∧ y.date = day.compactText
      ∧ y.replacement = replacement := by
  have listed := same.trans h.exceptions
  obtain ⟨y, here, parent, date, -, names⟩ := (putsException made).one
  obtain ⟨-, -, -, changed | ⟨absent, added⟩⟩ := putException_eq_ok made
  · -- The exceptions of before are none of the day.
    have kept : base.exceptions.map (fun x =>
        if x.parent == id && x.date == day.compactText then { x with kind, replacement } else x)
          = base.exceptions := by
      refine (List.map_congr_left ?_).trans (List.map_id _)
      intro a before
      apply if_neg
      rw [Bool.and_eq_true, beq_iff_eq, beq_iff_eq]
      exact plain a before
    rw [listed, List.map_append, kept] at changed
    rw [changed] at here
    cases there : x with
    | none =>
        rw [there, Option.toList_none, List.map_nil, List.append_nil] at here
        exact absurd ⟨parent, date⟩ (plain y here)
    | some old =>
        rw [there, Option.toList_some, List.map_singleton] at changed here
        rcases List.mem_append.mp here with before | last
        · exact absurd ⟨parent, date⟩ (plain y before)
        · exact ⟨y, List.mem_singleton.mp last ▸ changed, parent, date, names⟩
  · refine ⟨⟨t₀.lastException + 1, id, day.compactText, kind, replacement⟩, ?_, rfl, rfl, rfl⟩
    cases there : x with
    | none =>
        rw [there, Option.toList_none, List.append_nil] at listed
        rw [added, listed]
    | some old =>
        have member : old ∈ t₀.exceptions := by
          rw [listed, there]
          exact List.mem_append_right _ List.mem_cons_self
        obtain ⟨owner, date, -⟩ := h.onDay old there
        have found := List.find?_eq_none.mp absent old member
        rw [owner, date, beq_self_eq_true, beq_self_eq_true] at found
        exact absurd rfl found

/-- What was to stand in stands in, and what stood in is gone. -/
theorem put (nested : base.Nested) (h : base.Overlays id day standIn loose x t) {kind : OverrideKind}
    {u : Unit} {o : Override}
    (same : o = ⟨day, kind, (loose.map EventRow.id).map decimalInt⟩)
    (made : t.replacing id o = .ok (t', u)) :
    ∃ y, base.Overlays id day loose none (some y) t' := by
  have fits := h.fits_loose
  obtain ⟨-, made⟩ := replacing_eq_ok.mp made
  have counted := lastException_put made
  have written := putException_of_put fits (congrArg Override.replacement same) made
  subst same
  have dropped : t.dropped id day ((loose.map EventRow.id).map decimalInt)
      = { t with events := base.events ++ loose.toList } :=
    congrArg Deletion.left (h.dropping_eq plain nested rfl)
  obtain ⟨-, events, last, -⟩ := putException_eq_ok written
  obtain ⟨y, exceptions, parent, date, replacement⟩ :=
    h.exceptions_putException plain (by rw [dropped]) written
  rw [lastException_dropped] at counted
  rw [dropped] at events last
  have := h.counted
  refine ⟨y, (h.sound.of_thins (t.thinsTo_dropping _ _ _)).putException fits written, by omega, last ▸ h.last, ?_, exceptions, ?_,
    nofun, ?_⟩
  · rw [events, Option.toList_none, List.append_nil]
  · rintro _ ⟨⟩
    exact ⟨parent, date, replacement⟩
  · rintro e (stands | ⟨⟨⟩⟩)
    exact h.younger e (.inr stands)

theorem rows_removed (nested : base.Nested) (h : base.Overlays id day standIn none x t) :
    (t.removed id day).rows = base.rows := by
  have dropped : t.dropped id day none = { t with events := base.events } :=
    (congrArg Deletion.left (h.dropping_eq plain nested rfl)).trans
      (by rw [Option.toList_none, List.append_nil])
  rw [removed, dropped, deleteExceptions, rows, rows, h.exceptions, List.filter_append]
  have kept : base.exceptions.filter (fun y => !(y.parent == id && y.date == day.compactText))
      = base.exceptions := by
    apply List.filter_eq_self.mpr
    intro y before
    rw [Bool.not_eq_true', Bool.eq_false_iff, ne_eq, Bool.and_eq_true, beq_iff_eq, beq_iff_eq]
    exact plain y before
  have gone : x.toList.filter (fun y => !(y.parent == id && y.date == day.compactText)) = [] := by
    apply List.filter_eq_nil_iff.mpr
    intro y here
    obtain ⟨parent, date, -⟩ := h.onDay y (Option.mem_toList.mp here)
    rw [parent, date, beq_self_eq_true, beq_self_eq_true]
    exact Bool.false_ne_true
  rw [kept, gone, List.append_nil]

end

/-- An event is added that is to stand in next. -/
theorem added {c : Conditions} {title : Option Text} {start finish : Moment} {child : Int}
    (nested : base.Nested) (h : base.Overlays id day standIn none x t)
    (there : ∃ row ∈ base.events, row.id = id)
    (made : t.added c title start finish none (some id) = .ok (t', child)) :
    ∃ new, new.id = child ∧ base.Overlays id day standIn (some new) x t' := by
  have sound := h.sound.added made
  obtain ⟨columns, row, -, -, -, rfl, new, rfl⟩ := added_eq_ok made
  obtain ⟨number, owner, -⟩ := newRow_eq_ok new
  obtain ⟨a, before, rfl⟩ := there
  have old := (nested.sound.bounded a before).2
  have last := h.last
  refine ⟨row, number, sound, h.counted, by dsimp only; omega, ?_, h.exceptions, h.onDay, h.named, ?_⟩
  · dsimp only
    rw [h.events, Option.toList_none, List.append_nil]
    rfl
  · rintro e (stands | next)
    · exact h.younger e (.inl stands)
    · rw [← Option.some.inj next, number]
      exact ⟨owner, old, by omega⟩

end Overlays

end Tables

namespace Store

open Tables (Overlays)

/-- A call that overrides a day of an event. -/
def Call.OverridesDay (id : Int) (day : Date) : Call → Prop
  | modify i d .. | move i d .. | cancel i d => i = id ∧ d = day
  | _ => False

/-- Tables with an exception of the day at most, and the event that stands in if it names one. -/
def Overlaid (base : Tables) (id : Int) (day : Date) (t : Tables) : Prop :=
  ∃ standIn x, base.Overlays id day standIn none x t

/-- What holds while an id is left for another exception. -/
def IfFree (P : Tables → Prop) (t : Tables) : Prop := t.lastException + 1 < wordLimit → P t

variable {base : Tables} {s : Store} {c : Conditions} {id : Int} {day : Date}

theorem lastException_putException_le (o : Override) :
    s.tables.lastException ≤ (s.call (putException c id o)).2.tables.lastException := by
  cases read : s.tables.read c.standpoint id with
  | error fault =>
      rw [putException, s.call_of_unread read]
  | ok e =>
      obtain ⟨notes, outcome⟩ := s.call_putException read o
      rw [outcome]
      cases made : s.tables.replacing id o with
      | error fault => exact Int.le_of_eq Tables.lastException_dropped.symm
      | ok result =>
          have last := Tables.lastException_put (Tables.replacing_eq_ok.mp made).2
          rw [Tables.lastException_dropped] at last
          change s.tables.lastException ≤ result.1.lastException
          omega

section

variable (nested : base.Nested)
  (plain : ∀ x ∈ base.exceptions, ¬(x.parent = id ∧ x.date = day.compactText))
include nested plain

/-- While an id is left, putting the override of the day of an event that is there cannot fail. -/
theorem overlaid_putException {standIn loose : Option EventRow} {x : Option ExceptionRow}
    (h : base.Overlays id day standIn loose x s.tables) {e : Event}
    (read : s.tables.read c.standpoint id = .ok e) {kind : OverrideKind} {o : Override}
    (same : o = ⟨day, kind, (loose.map EventRow.id).map decimalInt⟩) :
    IfFree (Overlaid base id day) (s.call (putException c id o)).2.tables := by
  intro free
  obtain ⟨notes, outcome⟩ := s.call_putException read o
  rw [outcome] at free ⊢
  subst same
  cases made : s.tables.replacing id ⟨day, kind, (loose.map EventRow.id).map decimalInt⟩ with
  | ok result =>
      obtain ⟨t, u⟩ := result
      obtain ⟨y, done⟩ := h.put plain nested rfl made
      exact ⟨loose, some y, done⟩
  | error fault =>
      rw [made, settle, dropping, Tables.lastException_dropped] at free
      obtain ⟨row, there, owner⟩ := h.exists_of_read read
      have alone := h.dropping_eq plain nested rfl
      obtain ⟨t, put⟩ : ∃ t, (s.tables.dropped id day ((loose.map EventRow.id).map decimalInt)).put id
          ⟨day, kind, (loose.map EventRow.id).map decimalInt⟩ = .ok (t, ()) := by
        apply Tables.exists_put h.fits_loose rfl
        · rw [Tables.dropped, alone]
          exact Tables.hasEvent_iff.mpr ⟨row, List.mem_append_left _ there, owner⟩
        · rw [Tables.lastException_dropped]
          exact fitsWord_next h.counted free
      cases made.symm.trans (Tables.replacing_eq_ok.mpr ⟨congrArg Deletion.isWhole alone, put⟩)

theorem overlaid_overrideOccurrence (h : IfFree (Overlaid base id day) s.tables) (kind : OverrideKind)
    (title : Option Text) (start finish : Option Moment) :
    IfFree (Overlaid base id day)
      (s.call (overrideOccurrence c id day kind title start finish)).2.tables := by
  obtain ⟨notes, left⟩ := s.call_overrideOccurrence c id day kind title start finish
  rw [left]
  cases stood : s.tables.standing c id day title start finish with
  | error fault => exact h
  | ok result =>
      obtain ⟨t, child⟩ := result
      obtain ⟨e, read, made⟩ := bind_eq_ok.mp stood
      obtain ⟨⟨begins, ends⟩, -, made⟩ := bind_eq_ok.mp made
      intro free
      obtain ⟨columns, row, -, -, -, -, -, same⟩ := Tables.added_eq_ok made
      have before : s.tables.lastException + 1 < wordLimit := by
        have less := @lastException_putException_le ⟨t, t, notes⟩ c id
          { date := day, kind, replacement := some (decimalInt child) }
        have equal : t.lastException = s.tables.lastException := by rw [same]
        dsimp only [Prod.map_snd] at less free
        omega
      obtain ⟨standIn, x, laid⟩ := h before
      obtain ⟨new, rfl, loose⟩ := laid.added nested (laid.exists_of_read read) made
      have again : t.read c.standpoint id = .ok e := by
        apply laid.sound.read_of_subset loose.sound _ read
        rw [same]
        exact List.subset_append_left _ _
      exact @overlaid_putException base ⟨t, t, notes⟩ c id day nested plain _ _ _ loose e again kind _
        rfl free

theorem overlaid_after (h : IfFree (Overlaid base id day) s.tables) {call : Call}
    (overrides : call.OverridesDay id day) (c : Conditions) :
    IfFree (Overlaid base id day) (s.after c call).tables := by
  cases call with
  | modify a d title start finish =>
      obtain ⟨rfl, rfl⟩ := overrides
      exact overlaid_overrideOccurrence nested plain h .modified title start finish
  | move a d start finish =>
      obtain ⟨rfl, rfl⟩ := overrides
      exact overlaid_overrideOccurrence nested plain h .moved none start finish
  | cancel a d =>
      obtain ⟨rfl, rfl⟩ := overrides
      cases read : s.tables.read c.standpoint a with
      | error fault =>
          rw [after, cancelOccurrence, putException, s.call_of_unread read]
          exact h
      | ok e =>
          intro free
          have less := @lastException_putException_le s c a { date := d, kind := .cancelled }
          obtain ⟨standIn, x, laid⟩ := h (by
            change (s.call (putException c a _)).2.tables.lastException + 1 < wordLimit at free
            omega)
          exact overlaid_putException nested plain laid read rfl free
  | _ => exact overrides.elim

end

theorem Reaches.overlaid {s₁ : Store} (run : Reaches (Call.OverridesDay id day) s s₁)
    (nested : s.tables.Nested) (counted : 0 ≤ s.tables.lastException)
    (plain : ∀ x ∈ s.tables.exceptions, ¬(x.parent = id ∧ x.date = day.compactText)) :
    IfFree (Overlaid s.tables id day) s₁.tables := by
  induction run with
  | start => exact fun _ => ⟨none, none, .refl nested counted⟩
  | call c call _ overrides ih => exact overlaid_after nested plain ih overrides c

theorem Write.keeps_counted (w : Write) : w.Keeps fun t => 0 ≤ t.lastException := by
  intro t t' counted applied
  cases w with
  | insert row =>
      obtain ⟨⟨after, id⟩, inserted, rfl⟩ := map_eq_ok.mp applied
      obtain ⟨-, -, e, -, rfl⟩ := Tables.insertEvent_eq_ok inserted
      exact counted
  | put parent date kind replacement =>
      have last := (Tables.putsException applied).last
      omega
  | drop test =>
      cases applied
      exact (t.thinsTo_deletion test).lastException ▸ counted
  | setRule | removeExceptions =>
      cases applied
      exact counted

theorem Reachable.counted (h : s.Reachable) : 0 ≤ s.tables.lastException :=
  (Reaches.holds (P := fun t => 0 ≤ t.lastException) h ⟨Int.le_refl 0, Int.le_refl 0⟩
    fun _ _ w _ => w.keeps_counted).2

/-- Restoring a day leaves nothing behind. In a store that calls lead to, a day without an exception
is overridden any number of times, with calls that may fail, and then restored: both tables have
exactly the rows they had, and that is committed. This needs an id that is left for another exception
(`free`): each override that is put uses one up, the last is `wordLimit - 1`, and a call that finds none
leaves the event that it has added. -/
theorem rows_of_restored {s₁ s₂ : Store} {there : Bool} (reachable : s.Reachable)
    (plain : ∀ x ∈ s.tables.exceptions, ¬(x.parent = id ∧ x.date = day.compactText))
    (run : Reaches (Call.OverridesDay id day) s s₁) (free : s₁.tables.lastException + 1 < wordLimit)
    (restored : s₁.call (restoreOccurrence c id day) = (.ok there, s₂)) :
    s₂.tables.rows = s.tables.rows ∧ s₂.committed = s₂.tables := by
  have nested := reachable.nested.2
  obtain ⟨standIn, x, laid⟩ := run.overlaid nested reachable.counted plain free
  cases read : s₁.tables.read c.standpoint id with
  | error fault =>
      rw [restoreOccurrence, s₁.call_of_unread read] at restored
      cases restored
  | ok e =>
      obtain ⟨notes, outcome⟩ := s₁.call_restoreOccurrence read day
      rw [outcome] at restored
      obtain ⟨t, made, rfl⟩ := settle_eq_ok restored
      obtain ⟨_, -, made⟩ := map_eq_ok.mp made
      cases made
      exact ⟨laid.rows_removed plain nested, rfl⟩

/-- A day of a series is modified and moved, a third call fails because its event would end outside the
calendar, and the day is cancelled and moved again. Restoring it leaves the series and the exception of
another day. -/
theorem rows_of_restored_everyDay :
    let start : Moment := ⟨⟨2024, 1, 1, by decide⟩, ⟨9, 0, 0, 0, by decide⟩, none⟩
    let finish : Moment := ⟨⟨2024, 1, 1, by decide⟩, ⟨10, 0, 0, 0, by decide⟩, none⟩
    let late : Moment := ⟨⟨9999, 12, 31, by decide⟩, ⟨23, 30, 0, 0, by decide⟩, none⟩
    let day : Date := ⟨2024, 1, 5, by decide⟩
    let s := (Store.after {} newYearsEve (.create (some ['a']) start finish everyDay none)).after
      newYearsEve (.cancel 1 ⟨2024, 1, 7, by decide⟩)
    let s₂ := (s.after newYearsEve (.modify 1 day (some ['b']) none none)).after newYearsEve
      (.move 1 day (some finish) none)
    let s₃ := s₂.after newYearsEve (.modify 1 day none (some late) none)
    let s₅ := (s₃.after newYearsEve (.cancel 1 day)).after newYearsEve (.move 1 day none (some late))
    Fails (s₂.call (modifyOccurrence newYearsEve 1 day none (some late) none)).1
      ∧ s₅.tables.rows ≠ s.tables.rows
      ∧ ∃ s₆, s₅.call (restoreOccurrence newYearsEve 1 day) = (.ok true, s₆)
        ∧ s₆.tables.rows = s.tables.rows ∧ s₆.committed = s₆.tables := by
  intro start finish late day s s₂ s₃ s₅
  have reachable : s.Reachable := .call _ _ (.call _ _ .start trivial) trivial
  have run : Reaches (Call.OverridesDay 1 day) s s₅ :=
    .call _ _ (.call _ _ (.call _ _ (.call _ _ (.call _ _ .start ⟨rfl, rfl⟩) ⟨rfl, rfl⟩) ⟨rfl, rfl⟩)
      ⟨rfl, rfl⟩) ⟨rfl, rfl⟩
  have plain : ∀ x ∈ s.tables.exceptions, ¬(x.parent = 1 ∧ x.date = day.compactText) := by
    decide +kernel
  have fails : (s₂.call (modifyOccurrence newYearsEve 1 day none (some late) none)).1
      = .error .dateOutOfRange := by
    decide +kernel
  have free : s₅.tables.lastException + 1 < wordLimit := by decide +kernel
  have other : s₅.tables.rows ≠ s.tables.rows := by decide +kernel
  have restored : (s₅.call (restoreOccurrence newYearsEve 1 day)).1 = .ok true := by decide +kernel
  clear_value s₅ s₃ s₂ s
  have left := rows_of_restored reachable plain run free (Prod.ext restored rfl)
  exact ⟨⟨_, fails⟩, other, _, Prod.ext restored rfl, left⟩

end Store

end Recurrence
