import Recurrence.Proofs.Store.Ending
import Recurrence.Proofs.Store.Guided

/-! Exceptions and the events they name. An event that stands in goes with the exception that names
it, but for two cases: deleting that event by its own id leaves the exception and what it names, and
so does a call that is cut off once it has taken the event out. -/

namespace Recurrence

namespace Tables

/-- What an exception names is an event of its own parent, or gone. -/
def Stands (gone : Int → Prop) (t : Tables) : Prop :=
  ∀ x ∈ t.exceptions, ∀ m, x.replacement = some m →
    gone m ∨ ∃ e ∈ t.events, e.id = m ∧ e.parent = some x.parent

/-- An id that was given once and is not there. -/
abbrev Spent (id : Int) (t : Tables) : Prop := t.Under id fun _ => False

variable {t t' : Tables} {loose : Option Int} {id : Int} {day : Date} {keep : Option Text}
  {gone gone' : Int → Prop}

namespace Stands

theorem mono (h : t.Stands gone) (more : ∀ m, gone m → gone' m) : t.Stands gone' :=
  fun x member m names => (h x member m names).imp_left (more m)

/-- Exceptions that are left go on naming what they named where the events stay. -/
theorem of_subset (h : t.Stands gone) (fewer : t'.exceptions ⊆ t.exceptions)
    (kept : ∀ e ∈ t.events, ∃ a ∈ t'.events, a.id = e.id ∧ a.parent = e.parent) :
    t'.Stands gone := by
  intro x member m names
  refine (h x (fewer member) m names).imp_right ?_
  rintro ⟨e, there, rfl, owned⟩
  obtain ⟨a, left, same, parent⟩ := kept e there
  exact ⟨a, left, same, parent.trans owned⟩

/-- Of what is deleted only what passes the test itself may leave an exception that names it. -/
theorem deletion {test : EventRow → Bool} (h : t.Stands gone) (sound : t.Sound)
    (whole : (t.deletion test).isWhole = true)
    (hit : ∀ x ∈ t.exceptions, ∀ e ∈ t.events, x.replacement = some e.id →
      e.parent = some x.parent → test e = true → gone e.id) : (t.deletion test).left.Stands gone := by
  intro x left m names
  obtain ⟨old, kept⟩ := (mem_exceptions_deletion whole).mp left
  rcases h x old m names with lost | ⟨e, there, rfl, owned⟩
  · exact .inl lost
  by_cases passes : test e = true
  · exact .inl (hit x old e there names owned passes)
  · refine .inr ⟨e, (mem_events_deletion whole).mpr ⟨there, fun a member begins inside => ?_⟩, rfl, owned⟩
    generalize same : e.id = i at inside
    cases inside with
    | root => exact passes (sound.eq_of_id there member same ▸ begins)
    | @child b p also owner inside =>
        cases sound.eq_of_id there also same
        cases owner.symm.trans owned
        exact kept a member begins inside

/-- While the stand-in of a day is dropped, the exceptions of all other days keep theirs. -/
theorem of_dropped (h : t.Stands gone) (uncrossed : t.Uncrossed loose)
    (whole : (t.dropping id day keep).isWhole = true) {x : ExceptionRow} {m : Int}
    (left : x ∈ (t.dropped id day keep).exceptions)
    (other : ¬(x.parent = id ∧ x.date = day.compactText)) (names : x.replacement = some m) :
    gone m ∨ ∃ e ∈ (t.dropped id day keep).events, e.id = m ∧ e.parent = some x.parent := by
  have old := (t.thinsTo_dropping id day keep).mem_exceptions left
  cases found : t.replaced? id day keep with
  | none =>
      rw [dropped, dropping, found]
      exact h x old m names
  | some standIn =>
      obtain ⟨⟨y, there, parent, date, standing⟩, -⟩ :=
        uncrossed.unlooped.nested.sound.replaced?_eq_some.mp found
      rw [dropping, found] at whole
      rw [dropped, dropping, found] at left ⊢
      -- Only the exception of the day names what is dropped.
      have apart : m ≠ standIn := by
        rintro rfl
        cases uncrossed.eq_of_replacement there old standing names
        exact other ⟨parent, date⟩
      have more : t.Stands fun i => gone i ∨ i = standIn := h.mono fun _ => .inl
      have dropped := more.deletion uncrossed.unlooped.nested.sound whole
        fun z _ e _ _ _ passes => .inr (beq_iff_eq.mp (Bool.and_eq_true _ _ ▸ passes).1)
      exact (dropped x left m names).imp_left fun lost => lost.resolve_right apart

/-- An override takes the place of a stand-in, and names what is loose, if anything is. -/
theorem replacing {o : Override} (h : t.Stands gone) (uncrossed : t.Uncrossed loose)
    (fits : loose.all fitsWord = true) (names : o.replacement = loose.map decimalInt)
    (tied : ∀ m, loose = some m →
      ∃ e ∈ (t.dropped id o.date o.replacement).events, e.id = m ∧ e.parent = some id)
    (made : t.replacing id o = .ok (t', ())) : t'.Stands gone := by
  obtain ⟨whole, put⟩ := replacing_eq_ok.mp made
  have written := putException_of_put fits names put
  obtain ⟨-, events, -⟩ := putException_eq_ok written
  intro x member m points
  rw [events]
  rcases (putsException written).only x member with ⟨left, other⟩ | ⟨parent, -, -, new⟩
  · exact h.of_dropped uncrossed whole left other points
  · obtain ⟨e, there, same, owned⟩ := tied m (new.symm.trans points)
    exact .inr ⟨e, there, same, owned.trans (congrArg some parent.symm)⟩

theorem removed (h : t.Stands gone) (uncrossed : t.Uncrossed loose)
    (whole : (t.dropping id day none).isWhole = true) : (t.removed id day).Stands gone := by
  intro x member m names
  obtain ⟨left, other⟩ := List.mem_filter.mp member
  apply h.of_dropped uncrossed whole left _ names
  rintro ⟨parent, date⟩
  dsimp only at other
  rw [parent, date, beq_self_eq_true, beq_self_eq_true] at other
  cases other

/-- Deleting an event leaves the exceptions of other events that name it. -/
theorem deleted (h : t.Stands gone) (sound : t.Sound) (given : gone id)
    (whole : (t.deleting id).isWhole = true) : (t.deleted id).Stands gone := by
  let own := t.deleteExceptions fun x => x.parent == id
  have thin : t.ThinsTo own := thinsTo_deleteExceptions _ _
  have kept : own.Stands gone :=
    h.of_subset thin.exceptions_sublist.subset fun e there => ⟨e, there, rfl, rfl⟩
  obtain ⟨children, last⟩ := deleting_of_isWhole whole
  have left : (own.deletion fun e => e.parent == some id).left.Stands gone := by
    apply kept.deletion (sound.of_thins thin) children
    intro x member e _ _ owned hit
    rw [owned, beq_iff_eq, Option.some_inj] at hit
    have other := (List.mem_filter.mp member).2
    dsimp only at other
    rw [hit, beq_self_eq_true] at other
    cases other
  rw [Tables.deleted]
  rw [last] at whole ⊢
  apply left.deletion ((sound.of_thins thin).of_thins (thinsTo_deletion _ _)) whole
  exact fun x _ e _ _ _ hit => beq_iff_eq.mp hit ▸ given

/-- Where events are missing, they are gone. -/
theorem of_gone (h : t.Stands gone) (fewer : t'.exceptions ⊆ t.exceptions)
    (lost : ∀ e ∈ t.events, e ∉ t'.events → gone e.id) : t'.Stands gone := by
  intro x member m names
  rcases h x (fewer member) m names with before | ⟨e, there, rfl, owned⟩
  · exact .inl before
  · by_cases kept : e ∈ t'.events
    · exact .inr ⟨e, kept, rfl, owned⟩
    · exact .inl (lost e there kept)

end Stands

end Tables

namespace Store

open Tables (Stands Spent Gone)

section Guided

variable {s : Store} {c : Conditions} {call : Call} {t t' : Tables} {gone : Int → Prop} {id : Int}

theorem Call.Turns.stands (uncrossed : t.Uncrossed none) (h : t.Stands gone)
    (turn : call.Turns c t t') (given : ∀ id, call.deleted? = some id → gone id) :
    t'.Stands gone := by
  have sound := uncrossed.unlooped.nested.sound
  cases turn with
  | added made =>
      obtain ⟨columns, row, -, -, -, -, -, rfl⟩ := Tables.added_eq_ok made
      exact h.of_subset (fun _ member => member)
        fun e there => ⟨e, List.mem_append_left _ there, rfl, rfl⟩
  | @updated id change numbered owned =>
      have same : (t.updateEvent id change).exceptions ⊆ t.exceptions := List.Subset.refl _
      apply h.of_subset same
      intro e there
      refine ⟨_, List.mem_map_of_mem there, ?_⟩
      split
      · exact ⟨numbered e, owned e⟩
      · exact ⟨rfl, rfl⟩
  | @stoodIn id day kind row gained _ _ gains made =>
      have loose : gained.Stands gone := by
        refine h.of_subset (fun x member => ?_) fun e there => ⟨e, gains.mem_iff.mpr (.inl there), rfl, rfl⟩
        rw [gains.left] at member
        exact member
      apply loose.replacing (uncrossed.gained gains) gains.fits rfl _ made
      rintro _ ⟨⟩
      exact ⟨row, gains.row_mem_dropped uncrossed.unlooped, rfl, gains.parent⟩
  | cancelled made => exact @Stands.replacing _ _ none _ _ _ h uncrossed rfl rfl nofun made
  | removed id day whole => exact h.removed uncrossed whole
  | deleted id same whole => exact h.deleted sound (given id same) whole

/-- A call that is cut off adds no exception, and with an event that it takes out its id is gone. -/
theorem Call.Breaks.takes (broken : Call.Breaks t t') :
    t'.exceptions ⊆ t.exceptions ∧ ∀ e ∈ t.events, e ∉ t'.events → t.Gone t' e.id := by
  cases broken with
  | thinned thin => exact ⟨thin.exceptions_sublist.subset, fun e there => thin.gone there⟩
  | gained gains thin =>
      constructor
      · have fewer := thin.exceptions_sublist.subset
        rw [gains.left] at fewer
        exact fewer
      · intro e there out
        have gone := thin.gone (gains.mem_iff.mpr (.inl there)) out
        exact ⟨Tables.hasEvent_iff.mpr ⟨e, there, rfl⟩, gone.absent⟩

/-- An id that is not there any more never comes back. -/
theorem Reaches.spent {last : Store} (run : Reaches Call.IsGuided s last) (h : s.tables.Spent id) :
    last.tables.Spent id := by
  induction run with
  | start => exact h
  | call c call _ guided ih =>
      have stays : call ≠ .reopen := by
        rintro rfl
        exact guided
      exact (follows_after ih c stays fun _ made => made.keeps_under fun _ _ _ absent => absent).tables

end Guided

variable {s : Store} {c : Conditions} {id : Int}

/-- A guided run that leads to the store deleted an event by its own id. -/
def WasDeleted (s : Store) (id : Int) : Prop :=
  ∃ between c, Reaches Call.IsGuided {} between ∧ (between.call (deleteSeries c id)).1 = .ok ()
    ∧ Reaches Call.IsGuided (between.after c (.delete id)) s

/-- A guided run that leads to the store lost an event where one of its calls was cut off. -/
def WasLost (s : Store) (id : Int) : Prop :=
  ∃ between c call, Reaches Call.IsGuided {} between ∧ call.IsGuided ∧ between.CutsOff c call
    ∧ between.tables.Gone (between.after c call).tables id
    ∧ Reaches Call.IsGuided (between.after c call) s

theorem WasDeleted.after {call : Call} (h : s.WasDeleted id) (guided : call.IsGuided) :
    (s.after c call).WasDeleted id := by
  obtain ⟨between, c', run, deleted, later⟩ := h
  exact ⟨between, c', run, deleted, .call c call later guided⟩

theorem WasLost.after {call : Call} (h : s.WasLost id) (guided : call.IsGuided) :
    (s.after c call).WasLost id := by
  obtain ⟨between, c', call', run, guided', cut, gone, later⟩ := h
  exact ⟨between, c', call', run, guided', cut, gone, .call c call later guided⟩

theorem WasDeleted.spent (h : s.WasDeleted id) : s.tables.Spent id := by
  obtain ⟨between, c, run, deleted, later⟩ := h
  have sound := run.sound.2
  apply later.spent
  cases read : between.tables.read c.standpoint id with
  | error fault =>
      rw [deleteSeries, between.call_of_unread read] at deleted
      cases deleted
  | ok e =>
      obtain ⟨notes, outcome⟩ := between.call_deleteSeries read
      obtain ⟨row, there, rfl, -⟩ := sound.read_eq_ok.mp read
      have whole : (between.tables.deleting row.id).isWhole = true := by
        rw [outcome] at deleted
        by_contra broken
        obtain ⟨fault, ends⟩ := Deletion.fails_ending.mpr (Bool.eq_false_iff.mpr broken)
        rw [ends] at deleted
        cases deleted
      rw [Store.after, outcome, @Deletion.ending_eq_ok _ () |>.mpr whole]
      exact ⟨(between.tables.thinsTo_deleted row.id).lastEvent ▸ (sound.bounded row there).2,
        Tables.hasEvent_eq_false_iff.mp (Tables.absent_deleted whole)⟩

theorem WasLost.spent (h : s.WasLost id) : s.tables.Spent id := by
  obtain ⟨between, c, call, run, guided, cut, gone, later⟩ := h
  apply later.spent
  obtain ⟨e, there, rfl⟩ := Tables.hasEvent_iff.mp gone.there
  refine ⟨?_, Tables.hasEvent_eq_false_iff.mp gone.absent⟩
  have given := (run.sound.2.bounded e there).2
  cases (guides_after run.uncrossed.unlooped guided).breaks cut with
  | thinned thin => exact thin.lastEvent ▸ given
  | gained gains thin =>
      have older := gains.lt_row run.uncrossed.unlooped there
      rw [thin.lastEvent, gains.left]
      exact Int.le_of_lt older

/-- Every guided run keeps what exceptions name, but for what it deleted or lost. -/
theorem Reaches.stands (run : Reaches Call.IsGuided {} s) :
    s.tables.Stands fun m => s.WasDeleted m ∨ s.WasLost m := by
  induction run with
  | start => exact nofun
  | @call between c call run guided ih =>
      let gone : Int → Prop := fun m =>
        (between.after c call).WasDeleted m ∨ (between.after c call).WasLost m
      have uncrossed := run.uncrossed
      have held : between.tables.Stands gone :=
        ih.mono fun m => Or.imp (fun was => was.after guided) fun was => was.after guided
      by_cases cut : between.CutsOff c call
      · obtain ⟨fewer, lost⟩ := ((guides_after uncrossed.unlooped guided).breaks cut).takes
        apply held.of_gone fewer
        exact fun e there out => .inr ⟨between, c, call, run, guided, cut, lost e there out, .start⟩
      by_cases idle : (between.after c call).tables = between.tables
      · rw [idle]
        exact held
      have given : ∀ id, call.deleted? = some id → gone id := by
        intro id same
        cases call with
        | delete other =>
            cases same
            refine .inl ⟨between, c, run, ?_, .start⟩
            cases ends : (between.call (deleteSeries c id)).1 with
            | ok u => rfl
            | error fault =>
                have fails := @failsBy_deleteSeries between c id uncrossed.unlooped.nested
                exact absurd (fails.unchanged ⟨fault, ends⟩ cut).1 idle
        | _ => cases same
      have both : ∀ t t', t.Uncrossed none ∧ t.Stands gone → call.Turns c t t' →
          t'.Uncrossed none ∧ t'.Stands gone :=
        fun t t' kept turn => ⟨turn.uncrossed kept.1, turn.stands kept.1 kept.2 given⟩
      exact ((guides_after uncrossed.unlooped guided).keep ⟨uncrossed, held⟩ both
        fun cutOff => absurd cutOff cut).2

end Store

end Recurrence
