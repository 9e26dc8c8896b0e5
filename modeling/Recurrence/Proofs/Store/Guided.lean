import Mathlib.Logic.Relation
import Recurrence.Proofs.Store.Atomic

/-! What guided calls make of the tables. A guided call turns them, in at most two commits, or is cut
off and leaves them with rows missing. -/

namespace Recurrence

namespace Tables

/-- Unlooped tables in which all exceptions but cancellations name an id that was given, each another
one and none that is loose, and the event under it, if it is there, belongs to the same event. -/
structure Uncrossed (loose : Option Int) (t : Tables) : Prop where
  unlooped : t.Unlooped
  kinds : ∀ x ∈ t.exceptions, x.kind = .cancelled ↔ x.replacement = none
  given : ∀ x ∈ t.exceptions, ∀ m, x.replacement = some m → m ≤ t.lastEvent ∧ loose ≠ some m
  once : t.exceptions.Pairwise fun x y => ∀ m, x.replacement = some m → y.replacement ≠ some m
  ties : ∀ x ∈ t.exceptions, ∀ e ∈ t.events, x.replacement = some e.id → e.parent = some x.parent

variable {t t' : Tables} {loose : Option Int} {id : Int} {day : Date}

theorem uncrossed_empty : Uncrossed none {} where
  unlooped := unlooped_empty
  kinds := nofun
  given := nofun
  once := .nil
  ties := nofun

namespace Uncrossed

theorem eq_of_replacement {x y : ExceptionRow} {m : Int} (h : t.Uncrossed loose)
    (hx : x ∈ t.exceptions) (hy : y ∈ t.exceptions) (nx : x.replacement = some m)
    (ny : y.replacement = some m) : x = y := by
  have : Std.Symm fun x y : ExceptionRow => ∀ m, x.replacement = some m → y.replacement ≠ some m :=
    ⟨fun _ _ apart m here there => apart m there here⟩
  by_cases same : x = y
  · exact same
  · exact absurd ny (h.once.forall hx hy same m nx)

theorem filter_eq {x : ExceptionRow} {m : Int} (h : t.Uncrossed loose) (hx : x ∈ t.exceptions)
    (names : x.replacement = some m) :
    t.exceptions.filter (fun y => y.replacement == some m) = [x] := by
  have member : x ∈ t.exceptions.filter fun y => y.replacement == some m :=
    List.mem_filter.mpr ⟨hx, beq_iff_eq.mpr names⟩
  have hits : ∀ y ∈ t.exceptions.filter (fun y => y.replacement == some m), y.replacement = some m :=
    fun y hy => beq_iff_eq.mp (List.mem_filter.mp hy).2
  have once := h.once.filter fun y => y.replacement == some m
  generalize t.exceptions.filter (fun y => y.replacement == some m) = found at member hits once ⊢
  rcases found with _ | ⟨a, _ | ⟨b, more⟩⟩
  · cases member
  · rw [List.mem_singleton.mp member]
  · have apart := (List.pairwise_cons.mp once).1 b List.mem_cons_self m (hits a List.mem_cons_self)
    exact absurd (hits b (List.mem_cons_of_mem _ List.mem_cons_self)) apart

theorem of_thins (h : t.Uncrossed loose) (thin : t.ThinsTo t') : t'.Uncrossed loose where
  unlooped := h.unlooped.of_thins thin
  kinds := fun x member => h.kinds x (thin.mem_exceptions member)
  given := fun x member => thin.lastEvent ▸ h.given x (thin.mem_exceptions member)
  once := h.once.sublist thin.exceptions_sublist
  ties := fun x member e there => h.ties x (thin.mem_exceptions member) e (thin.mem_events there)

theorem settled (h : t.Uncrossed loose) : t.Uncrossed none where
  unlooped := h.unlooped
  kinds := h.kinds
  given := fun x member m names => ⟨(h.given x member m names).1, nofun⟩
  once := h.once
  ties := h.ties

/-- The exceptions stay as they are where an event is added, which none of them names. -/
theorem insert {row : EventRow} (h : t.Uncrossed none) (unlooped : t'.Unlooped)
    (next : row.id = t.lastEvent + 1) (tight : loose = none ∨ loose = some row.id)
    (left : t' = { t with events := t.events ++ [row], lastEvent := row.id }) :
    t'.Uncrossed loose := by
  have low : ∀ x ∈ t.exceptions, ∀ m, x.replacement = some m → m < row.id := by
    intro x member m names
    have := (h.given x member m names).1
    omega
  rw [left] at unlooped ⊢
  refine ⟨unlooped, h.kinds, ?_, h.once, ?_⟩
  · intro x member m names
    have below := low x member m names
    refine ⟨Int.le_of_lt below, ?_⟩
    rcases tight with rfl | rfl
    · exact nofun
    · exact fun same => Int.ne_of_lt below (Option.some.inj same).symm
  · intro x member e there names
    rcases List.mem_append.mp there with old | new
    · exact h.ties x member e old names
    · rw [List.mem_singleton.mp new] at names
      exact absurd (low x member row.id names) (Int.lt_irrefl row.id)

theorem added {c : Conditions} {title : Option Text} {start finish : Moment} {rule : Option Rule}
    (h : t.Uncrossed none) (made : t.added c title start finish rule none = .ok (t', id)) :
    t'.Uncrossed none := by
  have unlooped := h.unlooped.added made nofun
  obtain ⟨columns, row, -, -, -, next, new, left⟩ := added_eq_ok made
  obtain ⟨rfl, -⟩ := newRow_eq_ok new
  exact h.insert unlooped next (.inl rfl) left

/-- A child that was just added is loose. -/
theorem gained {row : EventRow} (h : t.Uncrossed none) (gains : t.GainsChild id row t') :
    t'.Uncrossed (some row.id) :=
  h.insert (gains.unlooped h.unlooped) gains.number (.inr rfl) gains.left

theorem updateEvent {change : EventRow → EventRow} (h : t.Uncrossed loose)
    (numbered : ∀ e, (change e).id = e.id) (owned : ∀ e, (change e).parent = e.parent) :
    (t.updateEvent id change).Uncrossed loose where
  unlooped := h.unlooped.updateEvent numbered owned
  kinds := h.kinds
  given := h.given
  once := h.once
  ties := by
    intro x member a there names
    obtain ⟨e, old, rfl⟩ := List.mem_map.mp there
    split at names
    · rename_i here
      rw [if_pos here, owned]
      exact h.ties x member e old (numbered e ▸ names)
    · rename_i elsewhere
      rw [if_neg elsewhere]
      exact h.ties x member e old names

/-- An exception comes to name what was loose, if anything was. -/
theorem putException {date : Text} {kind : OverrideKind} (h : t.Uncrossed loose)
    (fits : loose.all fitsWord = true) (kinds : kind = .cancelled ↔ loose = none)
    (tied : ∀ m, loose = some m → m ≤ t.lastEvent ∧ ∀ e ∈ t.events, e.id = m → e.parent = some id)
    (made : t.putException id date kind loose = .ok t') : t'.Uncrossed none := by
  have unlooped := h.unlooped.putException fits made
  obtain ⟨-, events, number, -⟩ := putException_eq_ok made
  have only := (putsException made).only
  refine ⟨unlooped, ?_, ?_, ?_, ?_⟩
  · intro y member
    rcases only y member with ⟨old, -⟩ | ⟨-, -, kind', new⟩
    · exact h.kinds y old
    · rw [kind', new]
      exact kinds
  · intro y member m points
    refine ⟨?_, nofun⟩
    rw [number]
    rcases only y member with ⟨old, -⟩ | ⟨-, -, -, new⟩
    · exact (h.given y old m points).1
    · exact (tied m (new.symm.trans points)).1
  · apply unlooped.nested.sound.keyed.imp_of_mem
    intro x y hx hy apart m nx ny
    rcases only x hx with ⟨oldX, _⟩ | ⟨px, dx, -, newX⟩
    · rcases only y hy with ⟨oldY, _⟩ | ⟨-, -, -, newY⟩
      · cases h.eq_of_replacement oldX oldY nx ny
        exact apart ⟨rfl, rfl⟩
      · exact (h.given x oldX m nx).2 (newY.symm.trans ny)
    · rcases only y hy with ⟨oldY, _⟩ | ⟨py, dy, -, -⟩
      · exact (h.given y oldY m ny).2 (newX.symm.trans nx)
      · exact apart ⟨px.trans py.symm, dx.trans dy.symm⟩
  · intro y member e there names
    rw [events] at there
    rcases only y member with ⟨old, -⟩ | ⟨parent, -, -, new⟩
    · exact h.ties y old e there names
    · exact parent ▸ (tied e.id (new.symm.trans names)).2 e there rfl

/-- An override that names what is loose, if anything is, takes the place of a stand-in. -/
theorem replacing {o : Override} (h : t.Uncrossed loose) (fits : loose.all fitsWord = true)
    (names : o.replacement = loose.map decimalInt) (kinds : o.kind = .cancelled ↔ loose = none)
    (tied : ∀ m, loose = some m → m ≤ t.lastEvent ∧ ∀ e ∈ t.events, e.id = m → e.parent = some id)
    (made : t.replacing id o = .ok (t', ())) : t'.Uncrossed none := by
  have thin := t.thinsTo_dropping id o.date o.replacement
  obtain ⟨-, put⟩ := replacing_eq_ok.mp made
  apply (h.of_thins thin).putException fits kinds _ (putException_of_put fits names put)
  intro m new
  obtain ⟨low, ties⟩ := tied m new
  exact ⟨thin.lastEvent ▸ low, fun e member => ties e (thin.mem_events member)⟩

end Uncrossed

/-- An id that was given and that no exception names. -/
structure Unnamed (id : Int) (t : Tables) : Prop where
  given : id ≤ t.lastEvent
  unnamed : ∀ x ∈ t.exceptions, x.replacement ≠ some id

theorem Unnamed.of_thins (h : t.Unnamed id) (thin : t.ThinsTo t') : t'.Unnamed id :=
  ⟨thin.lastEvent ▸ h.given, fun x member => h.unnamed x (thin.mem_exceptions member)⟩

theorem Unnamed.replacing {owner : Int} {o : Override} (h : t.Unnamed id)
    (fits : loose.all fitsWord = true) (names : o.replacement = loose.map decimalInt)
    (other : loose ≠ some id) (made : t.replacing owner o = .ok (t', ())) : t'.Unnamed id := by
  obtain ⟨-, put⟩ := replacing_eq_ok.mp made
  have written := putException_of_put fits names put
  have left := h.of_thins (t.thinsTo_dropping owner o.date o.replacement)
  obtain ⟨-, -, last, -⟩ := putException_eq_ok written
  refine ⟨last ▸ left.given, ?_⟩
  intro y member same
  rcases (putsException written).only y member with ⟨old, -⟩ | ⟨-, -, -, new⟩
  · exact left.unnamed y old same
  · exact other (new.symm.trans same)

end Tables

namespace Store

/-- What one commit of a guided call makes of the tables. -/
inductive Call.Turns (c : Conditions) (call : Call) (t : Tables) : Tables → Prop
  | added {title : Option Text} {start finish : Moment} {rule : Option Rule} {t' : Tables} {id : Int} :
      t.added c title start finish rule none = .ok (t', id) → Turns c call t t'
  | updated (id : Int) {change : EventRow → EventRow} : (∀ e, (change e).id = e.id) →
      (∀ e, (change e).parent = e.parent) → Turns c call t (t.updateEvent id change)
  | stoodIn {id : Int} {day : Date} {kind : OverrideKind} {row : EventRow} {gained t' : Tables} :
      kind ≠ .cancelled → t.GainsChild id row gained →
      gained.replacing id ⟨day, kind, some (decimalInt row.id)⟩ = .ok (t', ()) → Turns c call t t'
  | cancelled {id : Int} {day : Date} {t' : Tables} :
      t.replacing id ⟨day, .cancelled, none⟩ = .ok (t', ()) → Turns c call t t'
  | removed (id : Int) (day : Date) : (t.dropping id day none).isWhole = true →
      Turns c call t (t.removed id day)
  | deleted (id : Int) : call.deleted? = some id → (t.deleting id).isWhole = true →
      Turns c call t (t.deleted id)

/-- What a guided call leaves that is cut off: rows are missing, after one was added or not. -/
inductive Call.Breaks (t : Tables) : Tables → Prop
  | thinned {left : Tables} : t.ThinsTo left → Breaks t left
  | gained {id : Int} {row : EventRow} {gained left : Tables} : t.GainsChild id row gained →
      gained.ThinsTo left → Breaks t left

open Relation (ReflTransGen)

variable {s : Store} {c : Conditions} {call : Call}

/-- A guided call turns the tables, or is cut off and breaks them. -/
structure Guides (s : Store) (c : Conditions) (call : Call) (left : Tables) : Prop where
  turns : ¬ s.CutsOff c call → ReflTransGen (call.Turns c) s.tables left
  breaks : s.CutsOff c call → Call.Breaks s.tables left

theorem guides_of_turns {left : Tables} (uncut : ¬ s.CutsOff c call)
    (turns : ReflTransGen (call.Turns c) s.tables left) : s.Guides c call left :=
  ⟨fun _ => turns, fun cut => absurd cut uncut⟩

/-- A call that settles turns the tables once, or not at all. -/
theorem turns_of_settle {α : Type} {s : Store} {notes : List StoreNote} {outcome : Except Fault (Tables × α)}
    (turn : ∀ t a, outcome = .ok (t, a) → call.Turns c s.tables t) :
    ReflTransGen (call.Turns c) s.tables (s.settle notes outcome).2.tables := by
  cases outcome with
  | error fault => exact .refl
  | ok result => exact .single (turn result.1 result.2 rfl)

/-- A call that drops a stand-in and then settles. -/
theorem guides_of_dropping {α : Type} {id : Int} {day : Date} {keep : Option Text}
    {notes : List StoreNote} {outcome : Except Fault (Tables × α)} {left : Except Fault α × Store}
    (settled : left = (s.dropping id day keep).settle notes outcome)
    (fails : s.FailsBy (s.CutsOff c call) left)
    (turn : ∀ t a, outcome = .ok (t, a) → call.Turns c s.tables t) :
    s.Guides c call left.2.tables := by
  cases outcome with
  | error fault =>
      refine ⟨fun uncut => ?_, fun _ => ?_⟩
      · have failed : Fails left.1 := settled ▸ ⟨fault, rfl⟩
        rw [(fails.unchanged failed uncut).1]
      · rw [settled]
        exact .thinned (s.tables.thinsTo_dropping id day keep)
  | ok result =>
      rw [settled] at fails ⊢
      apply guides_of_turns
      · exact fun cut => absurd (fails.changed cut).1 (not_fails_ok _)
      · exact .single (turn result.1 result.2 rfl)

/-- A call on an event that cannot be read leaves the tables. -/
theorem guides_of_unread {α : Type} {id : Int} {f : Event → StoreAction α}
    (uncut : s.CutsOff c call → ∃ e, s.tables.read c.standpoint id = .ok e)
    (rest : ∀ e, s.tables.read c.standpoint id = .ok e →
      s.Guides c call (s.call (getEvent c id >>= f)).2.tables) :
    s.Guides c call (s.call (getEvent c id >>= f)).2.tables := by
  cases read : s.tables.read c.standpoint id with
  | error fault =>
      rw [s.call_of_unread read f]
      refine guides_of_turns (fun cut => ?_) .refl
      obtain ⟨e, told⟩ := uncut cut
      cases read.symm.trans told
  | ok e => exact rest e read

theorem guides_overrideOccurrence {id : Int} {day : Date} {kind : OverrideKind} {title : Option Text}
    {start finish : Option Moment} (unlooped : s.tables.Unlooped) (standing : kind ≠ .cancelled)
    (cuts : s.CutsOff c call
      ↔ (∃ added, s.tables.standing c id day title start finish = .ok added)
        ∧ (s.tables.IsDeepOn id day ∨ s.tables.IsUsedUp)) :
    s.Guides c call (s.call (overrideOccurrence c id day kind title start finish)).2.tables := by
  have fails := @failsBy_overrideOccurrence s c id day unlooped kind title start finish
  rw [← cuts] at fails
  cases made : s.tables.standing c id day title start finish with
  | error fault =>
      obtain ⟨notes, left⟩ := s.call_overrideOccurrence c id day kind title start finish
      rw [left, made]
      refine guides_of_turns (fun cut => ?_) .refl
      obtain ⟨⟨added, placed⟩, -⟩ := cuts.mp cut
      cases made.symm.trans placed
  | ok added =>
      obtain ⟨t, child⟩ := added
      obtain ⟨row, rfl, gains⟩ := unlooped.standing made
      obtain ⟨notes, left⟩ := call_of_standing unlooped kind made
      rw [left] at fails ⊢
      cases outcome : t.replacing id { date := day, kind, replacement := some (decimalInt row.id) } with
      | error fault =>
          rw [outcome] at fails
          refine ⟨fun uncut => ?_, fun _ => .gained gains (t.thinsTo_dropping id day _)⟩
          rw [(fails.unchanged ⟨fault, rfl⟩ uncut).1]
      | ok result =>
          rw [outcome] at fails
          apply guides_of_turns
          · exact fun cut => absurd (fails.changed cut).1 (not_fails_ok _)
          · exact .single (.stoodIn standing gains outcome)

theorem guides_deleteSeries (id : Int) (unlooped : s.tables.Unlooped) :
    s.Guides c (.delete id) (s.call (deleteSeries c id)).2.tables := by
  apply guides_of_unread And.left
  intro e read
  have cuts : s.CutsOff c (.delete id) ↔ (s.tables.deleting id).isWhole = false := by
    rw [unlooped.nested.isWhole_deleting_eq_false]
    exact and_iff_right ⟨e, read⟩
  obtain ⟨notes, left⟩ := s.call_deleteSeries read
  change s.Guides c (.delete id) (s.call (deleteSeries c id)).2.tables
  rw [left]
  cases whole : (s.tables.deleting id).isWhole with
  | true =>
      rw [@Deletion.ending_eq_ok _ () |>.mpr whole]
      rw [whole] at cuts
      apply guides_of_turns
      · intro cut
        cases cuts.mp cut
      · exact .single (.deleted id rfl whole)
  | false =>
      obtain ⟨fault, ends⟩ := Deletion.fails_ending.mpr whole
      rw [ends]
      exact ⟨fun uncut => absurd (cuts.mpr whole) uncut,
        fun _ => .thinned (s.tables.thinsTo_deleted id)⟩

/-- A split ends the row of the old series, and adds the new one if it gets that far. -/
theorem guides_splitSeries (id : Int) (day : Date) (rule : Option Rule) (title : Option Text)
    (today : Option Date) :
    s.Guides c (.split id day rule title today)
      (s.call (splitSeries c id day rule title today)).2.tables := by
  obtain ⟨notes, outcome⟩ := s.call_splitSeries c id day rule title today
  rw [outcome]
  refine guides_of_turns (fun cut => cut) ?_
  cases first : s.tables.shortened c id day rule today with
  | error fault => exact .refl
  | ok result =>
      obtain ⟨event, new, ended⟩ := result
      obtain ⟨-, old, -, -, -, last, -, text, -, -, rfl⟩ := Tables.shortened_eq_ok.mp first
      have shortened : (Call.split id day rule title today).Turns c s.tables
          (s.tables.updateEvent id (Tables.endedRow c old last text)) :=
        .updated id (fun _ => rfl) fun _ => rfl
      apply ReflTransGen.trans (.single shortened)
      refine @turns_of_settle c _ _ ⟨_, _, notes⟩ notes _ ?_
      intro t child made
      obtain ⟨⟨start, finish⟩, -, added⟩ := bind_eq_ok.mp made
      exact .added added

/-- Every guided call on unlooped tables. -/
theorem guides_after (unlooped : s.tables.Unlooped) (guided : call.IsGuided) :
    s.Guides c call (s.after c call).tables := by
  cases call with
  | create title start finish rule today =>
      obtain ⟨notes, outcome⟩ := s.call_createSeries c title start finish rule today
      rw [after, outcome]
      refine guides_of_turns (fun cut => cut) ?_
      apply turns_of_settle
      intro t child made
      obtain ⟨-, -, added⟩ := bind_eq_ok.mp made
      exact .added added
  | add | put | remove | reopen => exact guided.elim
  | get id =>
      rw [after, call_getEvent]
      exact guides_of_turns (fun cut => cut) .refl
  | updateRule id rule =>
      obtain ⟨notes, outcome⟩ := s.call_updateRule c id rule
      rw [after, outcome]
      refine guides_of_turns (fun cut => cut) ?_
      apply turns_of_settle
      intro t u made
      obtain ⟨_, -, made⟩ := bind_eq_ok.mp made
      obtain ⟨columns, -, made⟩ := bind_eq_ok.mp made
      obtain ⟨count, -, made⟩ := bind_eq_ok.mp made
      cases made
      exact .updated id (fun _ => rfl) fun _ => rfl
  | exceptions id =>
      rw [after, call_getExceptions]
      exact guides_of_turns (fun cut => cut) .refl
  | occurrences id first last =>
      obtain ⟨notes, outcome⟩ := s.call_getOccurrences c id first last
      rw [after, outcome]
      exact guides_of_turns (fun cut => cut) .refl
  | modify id day title start finish =>
      exact guides_overrideOccurrence unlooped (by decide) Iff.rfl
  | move id day start finish => exact guides_overrideOccurrence unlooped (by decide) Iff.rfl
  | cancel id day =>
      apply guides_of_unread And.left
      intro e read
      obtain ⟨notes, settled⟩ := s.call_putException read { date := day, kind := .cancelled }
      exact guides_of_dropping settled (failsBy_cancelOccurrence day unlooped)
        fun t u made => .cancelled made
  | restore id day =>
      apply guides_of_unread And.left
      intro e read
      obtain ⟨notes, settled⟩ := s.call_restoreOccurrence read day
      have fails : s.FailsBy (s.CutsOff c (.restore id day)) (s.call (restoreOccurrence c id day)) :=
        failsBy_restoreOccurrence day unlooped.nested
      apply guides_of_dropping settled fails
      intro t there made
      obtain ⟨_, whole, same⟩ := map_eq_ok.mp made
      cases same
      exact .removed id day (Deletion.ending_eq_ok.mp whole)
  | delete id => exact guides_deleteSeries id unlooped
  | split id day rule title today => exact guides_splitSeries id day rule title today

/-- What every turn keeps, and a break if the call is cut off, is kept by the call. -/
theorem Guides.keep {P : Tables → Prop} {left : Tables} (guides : s.Guides c call left)
    (held : P s.tables) (turns : ∀ t t', P t → call.Turns c t t' → P t')
    (breaks : s.CutsOff c call → Call.Breaks s.tables left → P left) : P left := by
  by_cases cut : s.CutsOff c call
  · exact breaks cut (guides.breaks cut)
  · have run := guides.turns cut
    clear guides breaks
    induction run with
    | refl => exact held
    | tail _ turn ih => exact turns _ _ ih turn

open Tables (Uncrossed Unnamed)

/-- No turn names an id that was given. -/
theorem Call.Turns.unnamed {t t' : Tables} {id : Int} (h : t.Unnamed id)
    (turn : call.Turns c t t') : t'.Unnamed id := by
  cases turn with
  | added made =>
      obtain ⟨columns, row, -, -, -, rfl, -, rfl⟩ := Tables.added_eq_ok made
      exact ⟨Int.le_trans h.given (by dsimp only; omega), h.unnamed⟩
  | updated => exact ⟨h.given, h.unnamed⟩
  | @stoodIn _ day kind row gained _ _ gains made =>
      have next := gains.number
      have given := h.given
      have loose : gained.Unnamed id := by
        rw [gains.left]
        exact ⟨by dsimp only; omega, h.unnamed⟩
      have other : some row.id ≠ some id := by
        rintro ⟨⟩
        omega
      exact @Unnamed.replacing _ _ (some row.id) id _ _ loose gains.fits rfl other made
  | cancelled made => exact @Unnamed.replacing _ _ none id _ _ h rfl rfl nofun made
  | removed id day =>
      exact (h.of_thins (t.thinsTo_dropping id day none)).of_thins (Tables.thinsTo_deleteExceptions _ _)
  | deleted id => exact h.of_thins (t.thinsTo_deleted id)

theorem Call.Breaks.unnamed {t left : Tables} {id : Int} (h : t.Unnamed id)
    (broken : Call.Breaks t left) : left.Unnamed id := by
  cases broken with
  | thinned thin => exact h.of_thins thin
  | @gained _ row gained _ gains thin =>
      have next := gains.number
      have given := h.given
      have loose : gained.Unnamed id := by
        rw [gains.left]
        exact ⟨by dsimp only; omega, h.unnamed⟩
      exact loose.of_thins thin

theorem Call.Turns.uncrossed {t t' : Tables} (h : t.Uncrossed none) (turn : call.Turns c t t') :
    t'.Uncrossed none := by
  cases turn with
  | added made => exact h.added made
  | updated id numbered owned => exact h.updateEvent numbered owned
  | stoodIn standing gains made =>
      apply (h.gained gains).replacing gains.fits rfl ⟨fun none => absurd none standing, nofun⟩ _ made
      exact gains.tied h.unlooped
  | cancelled made => exact h.replacing rfl rfl ⟨fun _ => rfl, fun _ => rfl⟩ nofun made
  | removed id day =>
      exact (h.of_thins (t.thinsTo_dropping id day none)).of_thins (Tables.thinsTo_deleteExceptions _ _)
  | deleted id => exact h.of_thins (t.thinsTo_deleted id)

theorem Call.Breaks.uncrossed {t left : Tables} (h : t.Uncrossed none) (broken : Call.Breaks t left) :
    left.Uncrossed none := by
  cases broken with
  | thinned thin => exact h.of_thins thin
  | gained gains thin => exact ((h.gained gains).of_thins thin).settled

theorem Reaches.uncrossed (run : Reaches Call.IsGuided {} s) : s.tables.Uncrossed none := by
  induction run with
  | start => exact Tables.uncrossed_empty
  | call c call _ guided ih =>
      exact (guides_after ih.unlooped guided).keep ih (fun _ _ held turn => turn.uncrossed held)
        fun _ broken => broken.uncrossed ih

end Store

end Recurrence
