import Recurrence.Proofs.Store.Ending
import Recurrence.Proofs.Store.Overriding

/-! What a call writes down as the start and the end of an event. Ids are given once and committed at
once, and no later call changes the two texts, so they are those of the call that gave the id. -/

namespace Recurrence.Store

/-- From when to when the event lasts that a call adds. -/
def Call.span? (s : Store) (c : Conditions) : Call → Option (Moment × Moment)
  | create _ start finish _ _ | add _ start finish _ _ => some (start, finish)
  | modify id day _ start finish | move id day start finish =>
    (s.tables.read c.standpoint id).toOption.bind fun e => (e.standInSpan day start finish).toOption
  | split id day _ _ _ => (s.tables.read c.standpoint id).toOption.bind fun e => (e.slot day).toOption
  | _ => none

/-- The call that gave the id to an event wrote down these moments, and calls led from there to the
store. -/
def Wrote (s : Store) (id : Int) (begins ends : Moment) : Prop :=
  ∃ (before : Store) (c : Conditions) (call : Call), before.Reachable
    ∧ call.span? before c = some (begins, ends)
    ∧ before.tables.lastEvent < id ∧ (before.after c call).tables.lastEvent = id
    ∧ Reaches (fun _ => True) (before.after c call) s

theorem Write.keeps_lastEvent {w : Write} (quiet : ∀ row, w ≠ .insert row) (n : Int) :
    w.Keeps fun t => t.lastEvent = n := by
  intro t t' h applied
  cases w with
  | insert row => exact absurd rfl (quiet row)
  | put =>
      obtain ⟨-, -, last, -⟩ := Tables.putException_eq_ok applied
      exact last.trans h
  | drop test =>
      cases applied
      exact (t.thinsTo_deletion test).lastEvent.trans h
  | _ =>
      cases applied
      exact h

theorem Call.Makes.quiet {call : Call} {w : Write} (made : call.Makes w)
    (adds : call.owner? = none) : ∀ row, w ≠ .insert row := by
  rintro row rfl
  cases made with
  | insert _ owner => cases adds.symm.trans owner

section After

variable {P : Tables → Prop} {s : Store} {c : Conditions} {id : Int} {day : Date}

theorem lastEvent_of_added {t t' : Tables} {title : Option Text} {start finish : Moment}
    {rule : Option Rule} {parent : Option Int}
    (made : t.added c title start finish rule parent = .ok (t', id)) :
    t'.lastEvent = id ∧ id = t.lastEvent + 1 := by
  obtain ⟨columns, row, -, -, -, number, -, rfl⟩ := Tables.added_eq_ok made
  exact ⟨rfl, number⟩

/-- What an override of an occurrence keeps: what the added event and the writes of the override
keep. -/
theorem Holds.after_standIn (held : s.Holds P) {call : Call} (overridden : call.overridden? = some id)
    {kind : OverrideKind} (puts : call.put? = some (day, kind)) {title : Option Text}
    {start finish : Option Moment}
    (same : s.after c call = (s.call (overrideOccurrence c id day kind title start finish)).2)
    (quiet : ∀ w, call.Makes w → (∀ row, w ≠ .insert row) → w.Keeps P)
    (added : ∀ e t name begins ends child, s.tables.read c.standpoint id = .ok e →
      e.standInSpan day start finish = .ok (begins, ends) →
      s.tables.added c (some name) begins ends none (some id) = .ok (t, child) →
      (s.after c call).tables.lastEvent = child → P t) : (s.after c call).Holds P := by
  obtain ⟨notes, left⟩ := s.call_overrideOccurrence c id day kind title start finish
  rw [left] at same
  cases stood : s.tables.standing c id day title start finish with
  | error fault =>
      rw [same, stood]
      exact held
  | ok result =>
      obtain ⟨t, child⟩ := result
      obtain ⟨e, read, made⟩ := bind_eq_ok.mp stood
      obtain ⟨⟨begins, ends⟩, span, made⟩ := bind_eq_ok.mp made
      let o : Override := { date := day, kind, replacement := some (decimalInt child) }
      rw [stood, Prod.map_snd] at same
      have keeps : ∀ {Q : Tables → Prop},
          (∀ w, call.Makes w → (∀ row, w ≠ .insert row) → w.Keeps Q) → Keeps Q (putException c id o) := by
        intro Q quiet
        apply keeps_putException
        · exact fun child => quiet _ (.dropChild child id overridden) nofun
        · exact fun replacement fits => quiet _ (.put id day kind replacement overridden puts fits) nofun
      have last := (keeps (fun _ _ insertsNone => Write.keeps_lastEvent insertsNone child) ⟨t, t, notes⟩
        (lastEvent_of_added made).1).tables
      have kept : P t := added e t _ begins ends child read span made (same ▸ last)
      have both : Holds P ⟨t, t, notes⟩ := ⟨kept, kept⟩
      rw [same]
      exact (keeps quiet ⟨t, t, notes⟩ kept).holds both

/-- What a call keeps: what its writes keep, and the event that it adds with its moments. -/
theorem Holds.after_span (held : s.Holds P) (c : Conditions) (call : Call)
    (quiet : ∀ w, call.Makes w → (∀ row, w ≠ .insert row) → w.Keeps P)
    (added : ∀ t t' title begins ends rule parent id, P t → t.lastEvent = s.tables.lastEvent →
      call.span? s c = some (begins, ends) → t.added c title begins ends rule parent = .ok (t', id) →
      (s.after c call).tables.lastEvent = id → P t') : (s.after c call).Holds P := by
  cases call with
  | create title start finish rule today =>
      obtain ⟨notes, outcome⟩ := s.call_createSeries c title start finish rule today
      have same : s.after c (.create title start finish rule today) = _ := congrArg Prod.snd outcome
      rw [same] at added ⊢
      apply held.settle
      intro t id made
      rw [made] at added
      obtain ⟨-, -, made⟩ := bind_eq_ok.mp made
      exact added _ _ _ _ _ _ _ _ held.2 rfl rfl made (lastEvent_of_added made).1
  | add title start finish rule parent =>
      obtain ⟨notes, outcome⟩ := s.call_addEvent c title start finish rule parent
      have same : s.after c (.add title start finish rule parent) = _ := congrArg Prod.snd outcome
      rw [same] at added ⊢
      apply held.settle
      intro t id made
      rw [made] at added
      exact added _ _ _ _ _ _ _ _ held.2 rfl rfl made (lastEvent_of_added made).1
  | modify id day title start finish =>
      apply held.after_standIn rfl rfl rfl quiet
      intro e t name begins ends child read span made last
      apply added _ _ _ _ _ _ _ _ held.2 rfl _ made last
      rw [Call.span?, read]
      exact congrArg Except.toOption span
  | move id day start finish =>
      apply held.after_standIn rfl rfl rfl quiet
      intro e t name begins ends child read span made last
      apply added _ _ _ _ _ _ _ _ held.2 rfl _ made last
      rw [Call.span?, read]
      exact congrArg Except.toOption span
  | split id day rule title today =>
      obtain ⟨notes, outcome⟩ := s.call_splitSeries c id day rule title today
      have same : s.after c (.split id day rule title today) = _ := congrArg Prod.snd outcome
      rw [same] at added ⊢
      cases first : s.tables.shortened c id day rule today with
      | error fault => exact held
      | ok result =>
          obtain ⟨event, new, ended⟩ := result
          rw [first] at added
          obtain ⟨read, old, recurring, -, -, last, -, text, written, -, rfl⟩ :=
            Tables.shortened_eq_ok.mp first
          have shortened : P (s.tables.updateEvent id (Tables.endedRow c old last text)) := by
            have columns : RuleColumns.ofRule (some (old.endedBy last))
                = .ok ⟨some text, (old.endedBy last).ends.map fun e => e.date.compactText, old.count⟩ :=
              map_eq_ok.mpr ⟨text, written, rfl⟩
            have coded : old.IsCoded := Event.isCoded_of_rule? recurring
            refine quiet _ (.setRule id _ c.now.compactText rfl columns ?_) nofun _ _ held.2 rfl
            rintro _ _ ⟨⟩
            exact coded
          have both : Holds P ⟨s.tables.updateEvent id (Tables.endedRow c old last text),
            s.tables.updateEvent id (Tables.endedRow c old last text), notes⟩ := ⟨shortened, shortened⟩
          apply both.settle
          intro t child made
          rw [splitLeft, made] at added
          obtain ⟨⟨start, finish⟩, placed, made⟩ := bind_eq_ok.mp made
          apply added _ _ _ _ _ _ _ _ shortened rfl _ made (lastEvent_of_added made).1
          rw [Call.span?, read]
          exact congrArg Except.toOption placed
  | _ =>
      apply held.after c
      intro w made
      exact quiet w made (made.quiet rfl)

end After

/-- An event is committed as soon as it has an id. -/
def Level (s : Store) : Prop := s.committed.lastEvent = s.tables.lastEvent

namespace Level

variable {s : Store} (level : s.Level)
include level

theorem settle {α : Type} (notes : List StoreNote) (outcome : Except Fault (Tables × α)) :
    (s.settle notes outcome).2.Level := by
  cases outcome with
  | error fault => exact level
  | ok result => rfl

theorem after_quiet (c : Conditions) {call : Call} (adds : call.owner? = none) :
    (s.after c call).Level := by
  have held : s.Holds fun t => t.lastEvent = s.tables.lastEvent := ⟨level, rfl⟩
  have kept : (s.after c call).Holds fun t => t.lastEvent = s.tables.lastEvent :=
    held.after c fun w made => Write.keeps_lastEvent (made.quiet adds) _
  exact kept.1.trans kept.2.symm

theorem after_standIn (c : Conditions) (id : Int) (day : Date) (kind : OverrideKind)
    (title : Option Text) (start finish : Option Moment) :
    (s.call (overrideOccurrence c id day kind title start finish)).2.Level := by
  obtain ⟨notes, left⟩ := s.call_overrideOccurrence c id day kind title start finish
  rw [left]
  cases s.tables.standing c id day title start finish with
  | error fault => exact level
  | ok result =>
      have committed : Level ⟨result.1, result.1, notes⟩ := rfl
      let o : Override := { date := day, kind, replacement := some (decimalInt result.2) }
      have put : (Store.after ⟨result.1, result.1, notes⟩ c (.put id o)).Level :=
        committed.after_quiet c rfl
      exact put

theorem after (c : Conditions) (call : Call) : (s.after c call).Level := by
  cases call with
  | create title start finish rule today =>
      obtain ⟨notes, outcome⟩ := s.call_createSeries c title start finish rule today
      rw [Store.after, outcome]
      exact level.settle notes _
  | add title start finish rule parent =>
      obtain ⟨notes, outcome⟩ := s.call_addEvent c title start finish rule parent
      rw [Store.after, outcome]
      exact level.settle notes _
  | modify id day title start finish => exact level.after_standIn c id day .modified title start finish
  | move id day start finish => exact level.after_standIn c id day .moved none start finish
  | split id day rule title today =>
      obtain ⟨notes, outcome⟩ := s.call_splitSeries c id day rule title today
      rw [Store.after, outcome]
      cases s.tables.shortened c id day rule today with
      | error fault => exact level
      | ok result =>
          have ended : Level ⟨result.2.2, result.2.2, notes⟩ := rfl
          exact ended.settle notes _
  | _ => exact level.after_quiet c rfl

end Level

theorem Reaches.level {allowed : Call → Prop} {s : Store} (run : Reaches allowed {} s) : s.Level := by
  induction run with
  | start => rfl
  | call c call _ _ ih => exact ih.after c call

section Texts

variable {s : Store} {id : Int} {begins ends : Moment}

/-- No later call changes what was written down. -/
theorem Wrote.texts (wrote : s.Wrote id begins ends) :
    s.Holds (Tables.Under id fun e => e.start = begins.compactText ∧ e.finish = ends.compactText) := by
  obtain ⟨before, c, call, reachable, span, fresh, given, later⟩ := wrote
  let Texts : EventRow → Prop := fun e => e.start = begins.compactText ∧ e.finish = ends.compactText
  let P : Tables → Prop := fun t => t.Sound ∧ (t.lastEvent < id ∨ t.Under id Texts)
  have level := Reaches.level reachable
  have sound := reachable.sound
  have held : before.Holds P := ⟨⟨sound.1, .inl (by rw [level]; exact fresh)⟩, sound.2, .inl fresh⟩
  have kept : (before.after c call).Holds P := by
    apply held.after_span c call
    · rintro w made quiet t t' ⟨sound, either⟩ applied
      refine ⟨made.keeps_sound t t' sound applied, either.imp ?_ ?_⟩
      · intro below
        exact (Write.keeps_lastEvent quiet t.lastEvent t t' rfl applied).symm ▸ below
      · exact fun under => made.keeps_under (fun _ _ _ texts => texts) t t' under applied
    · intro t t' title begins' ends' rule parent id' h same span' made last
      cases span.symm.trans span'
      cases last.symm.trans given
      refine ⟨h.1.added made, .inr ?_⟩
      obtain ⟨columns, row, -, -, -, number, new, rfl⟩ := Tables.added_eq_ok made
      refine ⟨Int.le_refl _, ?_⟩
      intro e member equal
      rcases List.mem_append.mp member with old | last
      · have := (h.1.bounded e old).2
        omega
      · rw [List.mem_singleton.mp last]
        exact (Tables.newRow_eq_ok new).2.2
  have under : (before.after c call).Holds (Tables.Under id Texts) := by
    have level' := level.after c call
    have committed : (before.after c call).committed.lastEvent = id := level'.trans given
    exact ⟨kept.1.2.resolve_left (by omega), kept.2.2.resolve_left (by omega)⟩
  exact later.holds under fun _ _ w made => made.keeps_under fun _ _ _ texts => texts

/-- Every event was written down by some call. -/
theorem Reachable.exists_wrote (reachable : s.Reachable) :
    s.Holds fun t => ∀ e ∈ t.events, ∃ begins ends, s.Wrote e.id begins ends := by
  induction reachable with
  | start => exact ⟨nofun, nofun⟩
  | @call s c call reachable _ ih =>
      have more : ∀ id, (∃ begins ends, s.Wrote id begins ends) →
          ∃ begins ends, (s.after c call).Wrote id begins ends := by
        rintro id ⟨begins, ends, before, c', call', first, span, fresh, given, later⟩
        exact ⟨begins, ends, before, c', call', first, span, fresh, given, .call c call later trivial⟩
      have held : s.Holds fun t => ∀ e ∈ t.events, ∃ begins ends,
          (s.after c call).Wrote e.id begins ends :=
        ⟨fun e member => more e.id (ih.1 e member), fun e member => more e.id (ih.2 e member)⟩
      apply held.after_span c call
      · exact fun w _ quiet => Write.keeps_rows quiet fun _ _ _ _ _ known => known
      · intro t t' title begins ends rule parent id h same span made last
        obtain ⟨columns, row, -, -, -, number, new, rfl⟩ := Tables.added_eq_ok made
        intro e member
        rcases List.mem_append.mp member with old | fresh
        · exact h e old
        · rw [List.mem_singleton.mp fresh, (Tables.newRow_eq_ok new).1]
          exact ⟨begins, ends, s, c, call, reachable, span, by omega, last, .start⟩

end Texts

end Recurrence.Store
