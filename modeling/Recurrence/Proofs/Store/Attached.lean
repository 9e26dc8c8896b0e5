import Recurrence.Proofs.Store.Guided

/-! An event that belongs to another one stands in on exactly one of its days, where every stand-in is
made and dropped by the store itself, unless a call is cut off. While its override is put, an event
that was just added is loose: no exception names it yet, and if the call is cut off none ever will. -/

namespace Recurrence

namespace Tables

/-- An event that no exception names. -/
structure IsOrphan (t : Tables) (id : Int) : Prop where
  there : t.hasEvent id = true
  unnamed : ∀ x ∈ t.exceptions, x.replacement ≠ some id

/-- Uncrossed tables in which every event that belongs to another one is named, but for one that is
loose and for some exempt ones. -/
structure AttachedBut (exempt : Int → Prop) (loose : Option Int) (t : Tables) : Prop where
  uncrossed : t.Uncrossed loose
  named : ∀ e ∈ t.events, e.parent.isSome = true → loose ≠ some e.id → ¬ exempt e.id →
    ∃ x ∈ t.exceptions, x.replacement = some e.id

abbrev Attached (exempt : Int → Prop) (t : Tables) : Prop := t.AttachedBut exempt none

variable {t t' : Tables} {exempt exempt' : Int → Prop} {loose : Option Int} {id : Int} {day : Date}
  {keep : Option Text}

theorem attached_empty : Attached exempt {} where
  uncrossed := uncrossed_empty
  named := nofun

namespace AttachedBut

/-- More events are exempt, or none of those that no longer are is there. -/
theorem exempting (h : t.AttachedBut exempt loose)
    (only : ∀ e ∈ t.events, exempt e.id → exempt' e.id) : t.AttachedBut exempt' loose where
  uncrossed := h.uncrossed
  named := fun e member owned tight free => h.named e member owned tight (mt (only e member) free)

/-! What the calls do to the tables, one write at a time. -/

theorem added {c : Conditions} {title : Option Text} {start finish : Moment} {rule : Option Rule}
    (h : t.Attached exempt) (made : t.added c title start finish rule none = .ok (t', id)) :
    t'.Attached exempt where
  uncrossed := h.uncrossed.added made
  named := by
    obtain ⟨columns, row, -, -, -, -, new, rfl⟩ := added_eq_ok made
    intro e member owned tight free
    rcases List.mem_append.mp member with old | fresh
    · exact h.named e old owned tight free
    · rw [List.mem_singleton.mp fresh, (newRow_eq_ok new).2.1] at owned
      cases owned

/-- A child that was just added is loose. -/
theorem gained {row : EventRow} (h : t.Attached exempt) (gains : t.GainsChild id row t') :
    t'.AttachedBut exempt (some row.id) where
  uncrossed := h.uncrossed.gained gains
  named := by
    intro e member owned tight free
    rcases gains.mem_iff.mp member with old | rfl
    · obtain ⟨x, there, names⟩ := h.named e old owned nofun free
      rw [gains.left]
      exact ⟨x, there, names⟩
    · exact absurd rfl tight

theorem updateEvent {change : EventRow → EventRow} (h : t.AttachedBut exempt loose)
    (numbered : ∀ e, (change e).id = e.id) (owned : ∀ e, (change e).parent = e.parent) :
    (t.updateEvent id change).AttachedBut exempt loose where
  uncrossed := h.uncrossed.updateEvent numbered owned
  named := by
    intro a member parent tight free
    obtain ⟨e, there, rfl⟩ := List.mem_map.mp member
    have same : ∀ e : EventRow, (if e.id == id then change e else e).id = e.id
        ∧ (if e.id == id then change e else e).parent = e.parent := by
      intro e
      split
      · exact ⟨numbered e, owned e⟩
      · exact ⟨rfl, rfl⟩
    rw [(same e).2] at parent
    rw [(same e).1] at tight free
    rw [(same e).1]
    exact h.named e there parent tight free

/-- An event that is left leaves its parent and so the exception that names it. -/
theorem of_closes (h : t.AttachedBut exempt loose) (thin : t.ThinsTo t') (closes : t.Closes t')
    (takes : t.TakesOnly (t.Gone t') t') : t'.AttachedBut exempt loose where
  uncrossed := h.uncrossed.of_thins thin
  named := by
    intro e member owned tight free
    have there := thin.mem_events member
    obtain ⟨x, old, names⟩ := h.named e there owned tight free
    refine ⟨x, ?_, names⟩
    by_contra out
    have parent := h.uncrossed.ties x old e there names
    exact (closes.events e there x.parent parent (takes.exceptions x old out)).not_mem member

theorem deletion {test : EventRow → Bool} (h : t.AttachedBut exempt loose)
    (whole : (t.deletion test).isWhole = true) : (t.deletion test).left.AttachedBut exempt loose :=
  h.of_closes (t.thinsTo_deletion test) (closes_deletion whole) (gone_of_deletion whole)

theorem dropped (h : t.AttachedBut exempt loose) (whole : (t.dropping id day keep).isWhole = true) :
    (t.dropped id day keep).AttachedBut exempt loose :=
  h.of_closes (t.thinsTo_dropping id day keep) (closes_dropping whole).1 (closes_dropping whole).2

theorem deleteExceptions (h : t.AttachedBut exempt loose) (test : ExceptionRow → Bool)
    (idle : ∀ x ∈ t.exceptions, test x = true → ∀ e ∈ t.events, x.replacement = some e.id →
      exempt e.id) : (t.deleteExceptions test).AttachedBut exempt loose where
  uncrossed := h.uncrossed.of_thins (thinsTo_deleteExceptions t test)
  named := by
    intro e member owned tight free
    obtain ⟨x, old, names⟩ := h.named e member owned tight free
    refine ⟨x, List.mem_filter.mpr ⟨old, ?_⟩, names⟩
    rw [Bool.not_eq_true']
    apply Bool.eq_false_iff.mpr
    exact fun hit => free (idle x old hit e member names)

/-- The exception of a day, if it names no child of its event, comes to name what was loose. -/
theorem putException {date : Text} {kind : OverrideKind} (h : t.AttachedBut exempt loose)
    (fits : loose.all fitsWord = true) (kinds : kind = .cancelled ↔ loose = none)
    (idle : ∀ x ∈ t.exceptions, x.parent = id → x.date = date → ∀ e ∈ t.events,
      x.replacement ≠ some e.id)
    (tied : ∀ m, loose = some m → m ≤ t.lastEvent ∧ ∀ e ∈ t.events, e.id = m → e.parent = some id)
    (made : t.putException id date kind loose = .ok t') : t'.Attached exempt where
  uncrossed := h.uncrossed.putException fits kinds tied made
  named := by
    obtain ⟨-, events, -⟩ := putException_eq_ok made
    obtain ⟨-, kept, ⟨z, there, -, -, -, names⟩, -⟩ := putsException made
    intro e member owned _ free
    rw [events] at member
    by_cases new : loose = some e.id
    · exact ⟨z, there, names.trans new⟩
    · obtain ⟨x, old, points⟩ := h.named e member owned new free
      refine ⟨x, kept x old ?_, points⟩
      rintro ⟨here, today⟩
      exact idle x old here today e member points

/-- The exception of a day whose stand-in has been dropped names no event that is left. -/
theorem idle_of_dropped (h : t.AttachedBut exempt loose) (keeps : keep = loose.map decimalInt) :
    ∀ x ∈ (t.dropped id day keep).exceptions, x.parent = id → x.date = day.compactText →
      ∀ e ∈ (t.dropped id day keep).events, x.replacement ≠ some e.id := by
  intro x member parent date e there names
  have thin := t.thinsTo_dropping id day keep
  have old := thin.mem_exceptions member
  have other : keep ≠ some (decimalInt e.id) := by
    intro same
    obtain ⟨m, new, text⟩ := Option.map_eq_some_iff.mp (keeps.symm.trans same)
    cases decimalInt_inj text
    exact (h.uncrossed.given x old _ names).2 new
  have stands : t.StandsIn id day keep e :=
    ⟨thin.mem_events there, h.uncrossed.unlooped.nested.sound.replaced?_eq_some.mpr
      ⟨⟨x, old, parent, date, names⟩, other⟩,
      parent ▸ h.uncrossed.ties x old e (thin.mem_events there) names⟩
  exact hasEvent_eq_false_iff.mp stands.absent e there rfl

/-- An override that names what is loose, if anything is, leaves nothing loose. -/
theorem replacing {o : Override} (h : t.AttachedBut exempt loose) (fits : loose.all fitsWord = true)
    (names : o.replacement = loose.map decimalInt) (kinds : o.kind = .cancelled ↔ loose = none)
    (tied : ∀ m, loose = some m → m ≤ t.lastEvent ∧ ∀ e ∈ t.events, e.id = m → e.parent = some id)
    (made : t.replacing id o = .ok (t', ())) : t'.Attached exempt := by
  have thin := t.thinsTo_dropping id o.date o.replacement
  obtain ⟨whole, put⟩ := replacing_eq_ok.mp made
  have written := putException_of_put fits names put
  apply (h.dropped whole).putException fits kinds (h.idle_of_dropped names) _ written
  intro m new
  obtain ⟨low, ties⟩ := tied m new
  exact ⟨thin.lastEvent ▸ low, fun e member => ties e (thin.mem_events member)⟩

theorem removed (h : t.Attached exempt) (whole : (t.dropping id day none).isWhole = true) :
    (t.removed id day).Attached exempt := by
  apply (h.dropped whole).deleteExceptions
  intro x member hit e there names
  rw [Bool.and_eq_true, beq_iff_eq, beq_iff_eq] at hit
  exact absurd names (h.idle_of_dropped rfl x member hit.1 hit.2 e there)

/-- When the exceptions of an event are deleted its children are exempt, until they are deleted too. -/
theorem deleted (h : t.Attached exempt) (whole : (t.deleting id).isWhole = true) :
    (t.deleted id).Attached exempt := by
  let orphaned : Int → Prop := fun i => exempt i ∨ ∃ e ∈ t.events, e.id = i ∧ e.parent = some id
  have own : (t.deleteExceptions fun x => x.parent == id).Attached orphaned := by
    apply (h.exempting fun e _ => Or.inl).deleteExceptions
    intro x old hit e member names
    rw [beq_iff_eq] at hit
    exact .inr ⟨e, member, rfl, hit ▸ h.uncrossed.ties x old e member names⟩
  obtain ⟨children, last⟩ := deleting_of_isWhole whole
  have left : Attached exempt (Tables.deletion (t.deleteExceptions fun x => x.parent == id)
      fun e => e.parent == some id).left := by
    apply (own.deletion children).exempting
    rintro e member (free | ⟨a, there, same, owned⟩)
    · exact free
    · have gone := absent_deletion children there (beq_iff_eq.mpr owned)
      exact absurd same.symm (hasEvent_eq_false_iff.mp gone e member)
  rw [Tables.deleted]
  rw [last] at whole ⊢
  exact left.deletion whole

end AttachedBut

end Tables

namespace Store

open Tables (Attached)

variable {s : Store} {c : Conditions} {call : Call} {t t' : Tables}

theorem Call.Turns.attached {exempt : Int → Prop} (h : t.Attached exempt)
    (turn : call.Turns c t t') : t'.Attached exempt := by
  cases turn with
  | added made => exact h.added made
  | updated id numbered owned => exact h.updateEvent numbered owned
  | stoodIn standing gains made =>
      apply (h.gained gains).replacing gains.fits rfl ⟨fun none => absurd none standing, nofun⟩ _ made
      exact gains.tied h.uncrossed.unlooped
  | cancelled made => exact h.replacing rfl rfl ⟨fun _ => rfl, fun _ => rfl⟩ nofun made
  | removed id day whole => exact h.removed whole
  | deleted id _ whole => exact h.deleted whole

/-- A run of guided calls left the event named by no exception where one of them was cut off. -/
def WasOrphaned (s : Store) (id : Int) : Prop :=
  ∃ between c call, Reaches Call.IsGuided {} between ∧ call.IsGuided ∧ between.CutsOff c call
    ∧ (between.after c call).tables.IsOrphan id ∧ Reaches Call.IsGuided (between.after c call) s

theorem wasOrphaned_of_cutsOff {e : EventRow} (run : Reaches Call.IsGuided {} s)
    (guided : call.IsGuided) (cut : s.CutsOff c call)
    (member : e ∈ (s.after c call).tables.events)
    (unnamed : ∀ x ∈ (s.after c call).tables.exceptions, x.replacement ≠ some e.id) :
    (s.after c call).WasOrphaned e.id :=
  ⟨s, c, call, run, guided, cut, ⟨Tables.hasEvent_iff.mpr ⟨e, member, rfl⟩, unnamed⟩, .start⟩

theorem WasOrphaned.after {id : Int} (h : s.WasOrphaned id) (guided : call.IsGuided) :
    (s.after c call).WasOrphaned id := by
  obtain ⟨between, c', call', run, guided', cut, orphan, later⟩ := h
  exact ⟨between, c', call', run, guided', cut, orphan, .call c call later guided⟩

/-- What was orphaned is never named again. -/
theorem WasOrphaned.unnamed {id : Int} (h : s.WasOrphaned id) : s.tables.Unnamed id := by
  obtain ⟨between, c, call, run, guided, -, orphan, later⟩ := h
  have first : Reaches Call.IsGuided {} (between.after c call) := .call c call run guided
  clear guided
  induction later with
  | start =>
      obtain ⟨e, member, rfl⟩ := Tables.hasEvent_iff.mp orphan.there
      exact ⟨(first.uncrossed.unlooped.nested.sound.bounded e member).2, orphan.unnamed⟩
  | call c' call' before permitted ih =>
      exact (guides_after (first.trans before).uncrossed.unlooped permitted).keep ih
        (fun _ _ held turn => turn.unnamed held) fun _ broken => broken.unnamed ih

theorem Reaches.attached (run : Reaches Call.IsGuided {} s) : s.tables.Attached s.WasOrphaned := by
  induction run with
  | start => exact Tables.attached_empty
  | @call between c call run guided ih =>
      have held := ih.exempting fun e _ was => WasOrphaned.after (c := c) was guided
      apply (guides_after ih.uncrossed.unlooped guided).keep held
      · exact fun _ _ kept turn => turn.attached kept
      · intro cut broken
        refine ⟨broken.uncrossed ih.uncrossed, ?_⟩
        -- What is not named any more is orphaned by this call.
        intro e member _ _ free
        by_contra unnamed
        apply free
        apply wasOrphaned_of_cutsOff run guided cut member
        exact fun x there names => unnamed ⟨x, there, names⟩

/-- A call that is cut off after it has added an event to stand in leaves that an orphan. -/
theorem exists_orphan {id : Int} {day : Date} {kind : OverrideKind} {title : Option Text}
    {start finish : Option Moment} (uncrossed : s.tables.Uncrossed none)
    (cut : (∃ added, s.tables.standing c id day title start finish = .ok added)
      ∧ (s.tables.IsDeepOn id day ∨ s.tables.IsUsedUp)) :
    ∃ e ∈ (s.call (overrideOccurrence c id day kind title start finish)).2.tables.events,
      e.parent = some id
        ∧ ∀ x ∈ (s.call (overrideOccurrence c id day kind title start finish)).2.tables.exceptions,
          x.replacement ≠ some e.id := by
  have unlooped := uncrossed.unlooped
  obtain ⟨⟨⟨t, child⟩, made⟩, cause⟩ := cut
  obtain ⟨row, rfl, gains⟩ := unlooped.standing made
  obtain ⟨fault, failed⟩ :=
    (@Tables.GainsChild.fails_replacing _ t id day row kind unlooped gains).mpr cause
  obtain ⟨notes, left⟩ := call_of_standing unlooped kind made
  rw [left, failed]
  refine ⟨row, gains.row_mem_dropped unlooped, gains.parent, fun x member => ?_⟩
  have old := (t.thinsTo_dropping id day _).mem_exceptions member
  exact fun names => ((uncrossed.gained gains).given x old row.id names).2 rfl

/-- In every store that guided calls lead to from an empty one, an event that belongs to another one is
named by exactly one exception, which belongs to the same event and is no cancellation, unless a call
that was cut off left the event unnamed. A call that is cut off after it has added an event leaves
that one unnamed. -/
theorem named_iff_not_wasOrphaned (run : Reaches Call.IsGuided {} s) :
    (∀ e ∈ s.tables.events, ∀ p, e.parent = some p →
      ((∃ x, s.tables.exceptions.filter (fun y => y.replacement == some e.id) = [x] ∧ x.parent = p
          ∧ (x.kind = .modified ∨ x.kind = .moved))
        ↔ ¬ s.WasOrphaned e.id))
    ∧ ∀ c call id, call.IsGuided → call.owner? = some (some id) → s.CutsOff c call →
      ∃ e ∈ (s.after c call).tables.events, e.parent = some id
        ∧ ∀ x ∈ (s.after c call).tables.exceptions, x.replacement ≠ some e.id := by
  have attached := run.attached
  have uncrossed := attached.uncrossed
  constructor
  · intro e member p owned
    constructor
    · rintro ⟨x, found, -⟩ was
      have there : x ∈ s.tables.exceptions.filter fun y => y.replacement == some e.id :=
        found ▸ List.mem_singleton_self x
      obtain ⟨old, names⟩ := List.mem_filter.mp there
      exact was.unnamed.unnamed x old (beq_iff_eq.mp names)
    · intro free
      obtain ⟨x, there, names⟩ := attached.named e member (owned ▸ rfl) nofun free
      refine ⟨x, uncrossed.filter_eq there names, ?_, ?_⟩
      · exact Option.some.inj ((uncrossed.ties x there e member names).symm.trans owned)
      · cases kind : x.kind with
        | cancelled => cases names.symm.trans ((uncrossed.kinds x there).mp kind)
        | modified => exact .inl rfl
        | moved => exact .inr rfl
  · intro c call id guided owner cut
    cases call with
    | modify => exact Option.some.inj (Option.some.inj owner) ▸ exists_orphan uncrossed cut
    | move => exact Option.some.inj (Option.some.inj owner) ▸ exists_orphan uncrossed cut
    | add => exact guided.elim
    | _ => cases owner

/-- Modifying an occurrence whose stand-in has 1000 levels of events below it leaves an orphan. -/
theorem named_iff_not_wasOrphaned_chain :
    let call : Call := .modify 1 chainDay none none none
    let s := (chain 1001).after newYearsEve call
    Reaches Call.IsGuided {} s ∧ (chain 1001).CutsOff newYearsEve call
      ∧ ∃ e ∈ s.tables.events, e.parent = some 1 ∧ s.WasOrphaned e.id
        ∧ ¬ ∃ x, s.tables.exceptions.filter (fun y => y.replacement == some e.id) = [x] ∧ x.parent = 1
            ∧ (x.kind = .modified ∨ x.kind = .moved) := by
  intro call
  have guided : call.IsGuided := trivial
  have fits : ((1001 : Nat) : Int) + 2 < wordLimit := by decide
  obtain ⟨stands, deep⟩ := @standsIn_chain 1001 (by omega) (by decide)
  have cut : (chain 1001).CutsOff newYearsEve call :=
    ⟨(exists_standing_chain fits).2, .inl ⟨_, stands, deep⟩⟩
  have before := chain_run 1001
  -- What is left to show needs no more of the chain than this.
  generalize chain 1001 = long at cut before ⊢
  have run : Reaches Call.IsGuided {} (long.after newYearsEve call) := .call _ _ before guided
  obtain ⟨e, member, owned, unnamed⟩ := (named_iff_not_wasOrphaned before).2 _ _ 1 guided rfl cut
  have was := wasOrphaned_of_cutsOff before guided cut member unnamed
  refine ⟨run, cut, e, member, owned, was, fun named => ?_⟩
  exact ((named_iff_not_wasOrphaned run).1 e member 1 owned).mp named was

end Store

end Recurrence
