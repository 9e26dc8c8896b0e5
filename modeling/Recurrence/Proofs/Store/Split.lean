import Recurrence.Proofs.Calendar.Clock
import Recurrence.Proofs.Store.Storage

/-! Splitting a series takes two commits, one that ends the old series and one that adds the new.
What fails between the two leaves the old series ended. -/

namespace Recurrence

namespace Tables

/-- The tables after the first commit of a split, with the old event and the rule of the new
series. -/
def shortened (t : Tables) (c : Conditions) (id : Int) (day : Date) (rule : Option Rule)
    (today : Option Date) : Except Fault (Event × Rule × Tables) := do
  let event ← t.read c.standpoint id
  match ← event.rule? c.standpoint with
  | none => .error (.invalidRule ["event ".toList ++ decimalInt id ++ " is not recurring".toList])
  | some old =>
    let new := rule.getD { old with count := none }
    new.check (today.getD c.today)
    let last ← day.addDays (-1)
    let (ended, _) ← t.ruled c id (some (old.endedBy last))
    .ok (event, new, ended)

/-- The tables after the second commit of a split, and the id of the new series. -/
def continued (t : Tables) (c : Conditions) (day : Date) (title : Option Text) (event : Event)
    (new : Rule) : Except Fault (Tables × Int) := do
  let (start, finish) ← event.slot day
  t.added c (some (event.titleOr title)) start finish (some new) none

end Tables

namespace Store

/-- What a split leaves by what its first part comes to. -/
def splitLeft (s : Store) (c : Conditions) (day : Date) (title : Option Text)
    (notes : List StoreNote) : Except Fault (Event × Rule × Tables) → Except Fault Int × Store
  | .error fault => (.error fault, { s with notes })
  | .ok (event, new, ended) =>
    settle ⟨ended, ended, notes⟩ notes (ended.continued c day title event new)

/-- The second part of a split, noted where it succeeds. -/
theorem call_continued (s : Store) (c : Conditions) (id : Int) (day : Date) (title : Option Text)
    (event : Event) (new : Rule) :
    ∃ notes, s.call (do
        let (start, finish) ← liftM (event.slot day)
        let child ← addEvent c (some (event.titleOr title)) start finish (some new) none
        note c "split_series".toList
          ("split series ".toList ++ decimalInt id ++ " at ".toList ++ day.isoText
            ++ ": new series ".toList ++ decimalInt child)
        pure child)
      = s.settle notes (s.tables.continued c day title event new) := by
  apply call_bind_settle (call_lift s _)
  rintro ⟨start, finish⟩
  dsimp only
  obtain ⟨notes, added⟩ := s.call_addEvent c (some (event.titleOr title)) start finish (some new) none
  cases made : s.tables.added c (some (event.titleOr title)) start finish (some new) none with
  | error fault =>
      rw [made] at added
      rw [call_bind_error _ added]
      exact ⟨notes, rfl⟩
  | ok result =>
      rw [made] at added
      rw [call_bind_ok _ added]
      exact ⟨_, rfl⟩

theorem call_splitSeries (s : Store) (c : Conditions) (id : Int) (day : Date) (rule : Option Rule)
    (title : Option Text) (today : Option Date) :
    ∃ notes, s.call (splitSeries c id day rule title today)
      = s.splitLeft c day title notes (s.tables.shortened c id day rule today) := by
  apply call_bind_reading (fun _ => rfl) (s.call_getEvent c id)
  intro event
  apply call_bind_reading (fun _ => rfl) (call_lift s _)
  intro rule?
  cases rule? with
  | none => exact ⟨s.notes, rfl⟩
  | some old =>
      apply call_bind_reading (fun _ => rfl) (call_lift s _)
      intro _
      apply call_bind_reading (fun _ => rfl) (call_lift s _)
      intro last
      obtain ⟨notes, ended⟩ := s.call_updateRule c id (some (old.endedBy last))
      cases made : s.tables.ruled c id (some (old.endedBy last)) with
      | error fault =>
          rw [made] at ended
          rw [error_bind]
          exact ⟨notes, call_bind_error _ ended⟩
      | ok result =>
          rw [made] at ended
          rw [ok_bind, call_bind_ok _ ended]
          obtain ⟨notes', rest⟩ := call_continued ⟨result.1, result.1, notes⟩ c id day title event
            (rule.getD { old with count := none })
          refine ⟨notes', rest.trans ?_⟩
          rw [splitLeft]
          cases result.1.continued c day title event (rule.getD { old with count := none }) with
          | error fault => rfl
          | ok child => rfl

end Store

/-! When the second part fails. -/

/-- The number of the day on which the slot of a day ends. -/
def Event.endDay (e : Event) (day : Date) : Int :=
  ({ e.start with date := day : Moment }.clockMicros
    + (e.finish.clockMicros - e.start.clockMicros)) / microsPerDay

theorem Event.fails_slot {e : Event} (hs : e.start.offset = none) (hf : e.finish.offset = none)
    (day : Date) : Fails (e.slot day) ↔ e.endDay day < 1 ∨ lastOrdinal < e.endDay day := by
  rw [slot, Moment.since_of_naive hf hs, ok_bind, fails_bind, Moment.fails_add, endDay]
  constructor
  · rintro (outside | ⟨_, _, absent⟩)
    · exact outside
    · exact absurd absent (not_fails_ok _)
  · exact .inl

/-- An event that was read has moments without offsets. -/
theorem Event.offset_of_ofRow {here : DateText.Standpoint} {row : EventRow} {e : Event}
    (h : Event.ofRow here row = .ok e) : e.start.offset = none ∧ e.finish.offset = none := by
  obtain ⟨start, begins, h⟩ := bind_eq_ok.mp h
  obtain ⟨finish, finishes, h⟩ := bind_eq_ok.mp h
  obtain ⟨endDate, -, h⟩ := bind_eq_ok.mp h
  cases h
  exact ⟨StoredMoment.offset_of_read begins, StoredMoment.offset_of_read finishes⟩

namespace Tables

/-- A new series without a parent is refused for its rule's numerals, for its count or for want of
an id. -/
theorem fails_added {t : Tables} {c : Conditions} {title : Text} {start finish : Moment}
    {rule : Rule} :
    Fails (t.added c (some title) start finish (some rule) none)
      ↔ Fails rule.write ∨ rule.count.all fitsWord = false ∨ fitsWord (t.lastEvent + 1) = false := by
  constructor
  · intro failed
    cases written : rule.write with
    | error fault => exact .inl ⟨fault, rfl⟩
    | ok text =>
        by_cases counted : rule.count.all fitsWord = true
        · by_cases free : fitsWord (t.lastEvent + 1) = true
          · have stored : storedInteger? rule.count = .ok rule.count :=
              storedInteger?_eq_ok.mpr ⟨counted, rfl⟩
            have alone : storedInteger? none = .ok none := rfl
            have columns : RuleColumns.ofRule (some rule) = .ok {
                text := some text, endDate := rule.ends.map fun s => s.date.compactText
                count := rule.count } := by
              rw [RuleColumns.ofRule, written]
              rfl
            rw [added, columns, ok_bind, stored, ok_bind, alone, ok_bind,
              insertEvent_of_free free rfl rfl] at failed
            exact absurd failed (not_fails_ok _)
          · exact .inr (.inr (Bool.eq_false_iff.mpr free))
        · exact .inr (.inl (Bool.eq_false_iff.mpr counted))
  · intro cause
    cases made : t.added c (some title) start finish (some rule) none with
    | error fault => exact ⟨fault, rfl⟩
    | ok result =>
        obtain ⟨columns, row, given, counted, fits, number, -⟩ := added_eq_ok made
        obtain ⟨text, written, rfl⟩ := map_eq_ok.mp given
        rw [number] at fits
        rcases cause with ⟨fault, failed⟩ | wide | full
        · rw [written] at failed
          cases failed
        · rw [counted] at wide
          cases wide
        · rw [fits] at full
          cases full

theorem fails_continued {t : Tables} {c : Conditions} {day : Date} {title : Option Text}
    {event : Event} {new : Rule} (hs : event.start.offset = none) (hf : event.finish.offset = none) :
    Fails (t.continued c day title event new)
      ↔ (event.endDay day < 1 ∨ lastOrdinal < event.endDay day) ∨ Fails new.write
        ∨ new.count.all fitsWord = false ∨ fitsWord (t.lastEvent + 1) = false := by
  rw [continued, fails_bind, Event.fails_slot hs hf]
  simp only [fails_added]
  constructor
  · rintro (outside | ⟨_, _, cause⟩)
    · exact .inl outside
    · exact .inr cause
  · rintro (outside | cause)
    · exact .inl outside
    · cases placed : event.slot day with
      | error fault => exact .inl ((Event.fails_slot hs hf day).mp ⟨fault, placed⟩)
      | ok slot => exact .inr ⟨slot, rfl, cause⟩

/-- The row of a series that ends on a day at the latest. -/
def endedRow (c : Conditions) (old : Rule) (last : Date) (text : Text) (row : EventRow) : EventRow :=
  { row with
    ruleText := some text, endDate := (old.endedBy last).ends.map fun s => s.date.compactText
    count := old.count, modified := c.now.compactText }

theorem ruled_eq_ok {t ended : Tables} {c : Conditions} {id : Int} {old : Rule} {last : Date}
    {u : Unit} :
    t.ruled c id (some (old.endedBy last)) = .ok (ended, u)
      ↔ (∃ event, t.read c.standpoint id = .ok event)
        ∧ ∃ text, (old.endedBy last).write = .ok text ∧ old.count.all fitsWord = true
          ∧ t.updateEvent id (endedRow c old last text) = ended := by
  constructor
  · intro h
    obtain ⟨event, read, h⟩ := bind_eq_ok.mp h
    obtain ⟨columns, given, h⟩ := bind_eq_ok.mp h
    obtain ⟨text, written, rfl⟩ := map_eq_ok.mp given
    obtain ⟨count, stored, h⟩ := bind_eq_ok.mp h
    obtain ⟨fits, rfl⟩ := storedInteger?_eq_ok.mp stored
    cases h
    exact ⟨⟨event, read⟩, text, written, fits, rfl⟩
  · rintro ⟨⟨event, read⟩, text, written, fits, rfl⟩
    have stored : storedInteger? (old.endedBy last).count = .ok old.count :=
      storedInteger?_eq_ok.mpr ⟨fits, rfl⟩
    apply bind_eq_ok.mpr
    refine ⟨event, read, ?_⟩
    apply bind_eq_ok.mpr
    refine ⟨_, map_eq_ok.mpr ⟨text, written, rfl⟩, ?_⟩
    apply bind_eq_ok.mpr
    exact ⟨old.count, stored, rfl⟩

theorem shortened_eq_ok {t ended : Tables} {c : Conditions} {id : Int} {day : Date}
    {rule : Option Rule} {today : Option Date} {event : Event} {new : Rule} :
    t.shortened c id day rule today = .ok (event, new, ended)
      ↔ t.read c.standpoint id = .ok event
        ∧ ∃ old, event.rule? c.standpoint = .ok (some old) ∧ rule.getD { old with count := none } = new
          ∧ new.check (today.getD c.today) = .ok ()
          ∧ ∃ last, day.addDays (-1) = .ok last
            ∧ ∃ text, (old.endedBy last).write = .ok text ∧ old.count.all fitsWord = true
              ∧ t.updateEvent id (endedRow c old last text) = ended := by
  constructor
  · intro h
    obtain ⟨event', read, h⟩ := bind_eq_ok.mp h
    obtain ⟨rule?, recurring, h⟩ := bind_eq_ok.mp h
    cases rule? with
    | none => cases h
    | some old =>
        obtain ⟨⟨⟩, checked, h⟩ := bind_eq_ok.mp h
        obtain ⟨last, before, h⟩ := bind_eq_ok.mp h
        obtain ⟨⟨ended', u⟩, made, h⟩ := bind_eq_ok.mp h
        cases h
        exact ⟨read, old, recurring, rfl, checked, last, before, (ruled_eq_ok.mp made).2⟩
  · rintro ⟨read, old, recurring, rfl, checked, last, before, made⟩
    apply bind_eq_ok.mpr
    refine ⟨event, read, ?_⟩
    apply bind_eq_ok.mpr
    refine ⟨some old, recurring, ?_⟩
    apply bind_eq_ok.mpr
    refine ⟨(), checked, ?_⟩
    apply bind_eq_ok.mpr
    refine ⟨last, before, ?_⟩
    apply bind_eq_ok.mpr
    exact ⟨(ended, ()), ruled_eq_ok.mpr ⟨⟨event, read⟩, made⟩, rfl⟩

/-- Reading an id of sound tables is reading the row under it. -/
theorem Sound.read_eq_ok {t : Tables} {here : DateText.Standpoint} {id : Int} {e : Event}
    (h : t.Sound) :
    t.read here id = .ok e
      ↔ ∃ row ∈ t.events, row.id = id ∧ Event.ofRow here row = .ok e := by
  constructor
  · intro read
    obtain ⟨key, stored, read⟩ := bind_eq_ok.mp read
    obtain ⟨-, rfl⟩ := storedInteger_eq_ok.mp stored
    split at read
    · cases read
    · rename_i row found
      obtain ⟨member, same⟩ := event?_eq_some found
      exact ⟨row, member, same, read⟩
  · rintro ⟨row, member, rfl, read⟩
    have key : storedInteger row.id = .ok row.id :=
      storedInteger_eq_ok.mpr ⟨h.fitsWord_id member, rfl⟩
    rw [Tables.read, key, ok_bind, h.event?_of_mem member]
    exact read

/-- An event that is kept reads the same. -/
theorem Sound.read_of_subset {t t' : Tables} {here : DateText.Standpoint} {id : Int} {e : Event}
    (h : t.Sound) (h' : t'.Sound) (kept : t.events ⊆ t'.events) (read : t.read here id = .ok e) :
    t'.read here id = .ok e := by
  obtain ⟨row, there, same, told⟩ := h.read_eq_ok.mp read
  exact h'.read_eq_ok.mpr ⟨row, kept there, same, told⟩

/-- An update leaves the events of sound tables as they are where it leaves the row under the id. -/
theorem Sound.updateEvent_events {t : Tables} {row : EventRow} (h : t.Sound)
    (member : row ∈ t.events) (change : EventRow → EventRow) :
    (t.updateEvent row.id change).events = t.events ↔ change row = row := by
  have each : (t.updateEvent row.id change).events = t.events
      ↔ ∀ e ∈ t.events, (if e.id == row.id then change e else e) = e := by
    have pointwise := List.map_inj_left (l := t.events) (g := id)
      (f := fun e => if e.id == row.id then change e else e)
    rw [List.map_id] at pointwise
    exact pointwise
  rw [each]
  constructor
  · intro all
    have here := all row member
    rw [beq_self_eq_true, if_pos rfl] at here
    exact here
  · intro same e there
    split
    · rename_i hit
      rw [h.eq_of_id there member (beq_iff_eq.mp hit), same]
    · rfl

/-- The rows of both tables. -/
def rows (t : Tables) : List EventRow × List ExceptionRow := (t.events, t.exceptions)

end Tables

namespace Store

variable {s : Store} {c : Conditions} {id : Int} {day : Date} {rule : Option Rule}
  {title : Option Text} {today : Option Date}

/-- A split fails with other rows than it found where it fails after its first commit and that
commit changed a row. -/
theorem halfway_iff_continued :
    (Fails (s.call (splitSeries c id day rule title today)).1
        ∧ (s.call (splitSeries c id day rule title today)).2.tables.rows ≠ s.tables.rows)
      ↔ ∃ event new ended, s.tables.shortened c id day rule today = .ok (event, new, ended)
        ∧ Fails (ended.continued c day title event new) ∧ ended.rows ≠ s.tables.rows := by
  obtain ⟨notes, outcome⟩ := s.call_splitSeries c id day rule title today
  rw [outcome]
  cases first : s.tables.shortened c id day rule today with
  | error fault =>
      constructor
      · exact fun both => absurd rfl both.2
      · rintro ⟨_, _, _, absent, _⟩
        cases absent
  | ok result =>
      obtain ⟨event, new, ended⟩ := result
      rw [splitLeft]
      cases second : ended.continued c day title event new with
      | error fault =>
          constructor
          · intro both
            exact ⟨event, new, ended, rfl, ⟨fault, second⟩, both.2⟩
          · rintro ⟨_, _, _, same, _, changed⟩
            cases same
            exact ⟨⟨fault, rfl⟩, changed⟩
      | ok child =>
          constructor
          · exact fun both => absurd both.1 (not_fails_ok _)
          · rintro ⟨_, _, _, same, failed, _⟩
            cases same
            rw [second] at failed
            exact absurd failed (not_fails_ok _)

/-- What makes a split stop halfway: the old series is there, the rule of the new one passes the
check and the old one is ended anew, but then the slot of the day ends outside the calendar, or
the new rule has a numeral that is too long, or its count does not fit, or no id is left. -/
structure StopsHalfway (s : Store) (c : Conditions) (id : Int) (day : Date) (rule : Option Rule)
    (today : Option Date) (row : EventRow) (event : Event) (old new : Rule) (last : Date)
    (text : Text) : Prop where
  stored : row ∈ s.tables.events ∧ row.id = id
  read : Event.ofRow c.standpoint row = .ok event
  recurring : event.rule? c.standpoint = .ok (some old)
  given : rule.getD { old with count := none } = new
  checked : new.check (today.getD c.today) = .ok ()
  before : day.addDays (-1) = .ok last
  written : (old.endedBy last).write = .ok text
  counted : old.count.all fitsWord = true
  changed : Tables.endedRow c old last text row ≠ row
  cause : (event.endDay day < 1 ∨ lastOrdinal < event.endDay day) ∨ Fails new.write
    ∨ new.count.all fitsWord = false ∨ fitsWord (s.tables.lastEvent + 1) = false

/-- A split is not all or nothing: in a store that calls lead to, it fails and leaves other rows
than it found exactly where it stops halfway. -/
theorem splitSeries_halfway_iff (reachable : s.Reachable) :
    (Fails (s.call (splitSeries c id day rule title today)).1
        ∧ (s.call (splitSeries c id day rule title today)).2.tables.rows ≠ s.tables.rows)
      ↔ ∃ row event old new last text,
        s.StopsHalfway c id day rule today row event old new last text := by
  have sound := reachable.sound.2
  rw [halfway_iff_continued]
  constructor
  · rintro ⟨event, new, ended, first, failed, changed⟩
    obtain ⟨read, old, recurring, given, checked, last, before, text, written, counted, rfl⟩ :=
      Tables.shortened_eq_ok.mp first
    obtain ⟨row, member, rfl, told⟩ := sound.read_eq_ok.mp read
    obtain ⟨hs, hf⟩ := Event.offset_of_ofRow told
    -- The first commit adds no event, so the second one is given the same next id.
    rw [Tables.fails_continued hs hf, Tables.lastEvent_updateEvent] at failed
    refine ⟨row, event, old, new, last, text, ⟨member, rfl⟩, told, recurring, given, checked, before,
      written, counted, ?_, failed⟩
    intro same
    have kept := (sound.updateEvent_events member _).mpr same
    exact changed (Prod.ext kept rfl)
  · rintro ⟨row, event, old, new, last, text, ⟨member, rfl⟩, read, recurring, given, checked, before,
      written, counted, changed, cause⟩
    obtain ⟨hs, hf⟩ := Event.offset_of_ofRow read
    have first := Tables.shortened_eq_ok.mpr ⟨sound.read_eq_ok.mpr ⟨row, member, rfl, read⟩, old,
      recurring, given, checked, last, before, text, written, counted, rfl⟩
    refine ⟨event, new, _, first, ?_, ?_⟩
    · rw [Tables.fails_continued hs hf, Tables.lastEvent_updateEvent]
      exact cause
    · intro same
      exact changed ((sound.updateEvent_events member _).mp (congrArg Prod.fst same))

/-- The old series is ended for good, and nothing else has changed. -/
theorem StopsHalfway.left {row : EventRow} {event : Event} {old new : Rule} {last : Date}
    {text : Text} (reachable : s.Reachable)
    (h : s.StopsHalfway c id day rule today row event old new last text) :
    ∃ notes, (s.call (splitSeries c id day rule title today)).2
      = ⟨s.tables.updateEvent id (Tables.endedRow c old last text),
          s.tables.updateEvent id (Tables.endedRow c old last text), notes⟩ := by
  obtain ⟨⟨member, same⟩, read, recurring, given, checked, before, written, counted, _, cause⟩ := h
  obtain ⟨hs, hf⟩ := Event.offset_of_ofRow read
  have found := reachable.sound.2.read_eq_ok.mpr ⟨row, member, same, read⟩
  have first := Tables.shortened_eq_ok.mpr
    ⟨found, old, recurring, given, checked, last, before, text, written, counted, rfl⟩
  have second : Fails ((s.tables.updateEvent id (Tables.endedRow c old last text)).continued c day
      title event new) := by
    rw [Tables.fails_continued hs hf, Tables.lastEvent_updateEvent]
    exact cause
  obtain ⟨fault, failed⟩ := second
  obtain ⟨notes, outcome⟩ := s.call_splitSeries c id day rule title today
  rw [outcome, first, splitLeft, failed]
  exact ⟨notes, rfl⟩

def everyDay : Rule := { frequency := some .daily }

/-- Every day, two to the 63rd times. -/
def everyDayCounted : Rule := { everyDay with count := some wordLimit }

/-- A daily series is split on 10 January 2024 with a count that does not fit: it is left without
its days from then on. -/
theorem splitSeries_halfway_everyDay :
    let start : Moment := ⟨⟨2024, 1, 1, by decide⟩, ⟨9, 0, 0, 0, by decide⟩, none⟩
    let finish : Moment := ⟨⟨2024, 1, 1, by decide⟩, ⟨10, 0, 0, 0, by decide⟩, none⟩
    let split := splitSeries newYearsEve 1 ⟨2024, 1, 10, by decide⟩ (some everyDayCounted) none none
    ∃ s₁, Store.call {} (createSeries newYearsEve (some ['a']) start finish everyDay none) = (.ok 1, s₁)
      ∧ s₁.Reachable ∧ Fails (s₁.call split).1 ∧ (s₁.call split).2.tables.rows ≠ s₁.tables.rows := by
  intro start finish split
  have added : Except.map Prod.snd (do
      everyDay.check newYearsEve.today
      Tables.added {} newYearsEve (some ['a']) start finish (some everyDay) none) = .ok 1 := by
    decide +kernel
  obtain ⟨s₁, created⟩ := @exists_createSeries {} newYearsEve ['a'] start finish everyDay none 1 added
  have reachable := reachable_of_createSeries .start created
  obtain ⟨row, same, tells, stores⟩ := stores_of_createSeries .start created
  obtain ⟨text, written, -⟩ := tells.ruleText
  have checked : everyDay.check newYearsEve.today = .ok () := by decide
  have plain := Rule.isPlain_of_passes (Rule.passes_of_check checked) written rfl nofun
  obtain ⟨e, read, told, ruled⟩ :=
    Event.ofRow_of_tells tells ⟨rfl, rfl, by decide⟩ ⟨rfl, rfl, by decide⟩ plain
      newYearsEve.standpoint
  refine ⟨s₁, created, reachable, (splitSeries_halfway_iff reachable).mpr ?_⟩
  refine ⟨row, e, everyDay, everyDayCounted, ⟨2024, 1, 9, by decide⟩,
    "FREQ=DAILY;UNTIL=20240109".toList, ?_⟩
  exact {
    stored := ⟨stores.2.kept, same⟩
    read
    recurring := ruled newYearsEve.standpoint
    given := rfl
    checked := by decide
    before := by decide +kernel
    written := by decide +kernel
    counted := rfl
    changed := by
      intro unchanged
      have ends := congrArg EventRow.endDate unchanged
      rw [tells.endDate] at ends
      cases ends
    cause := .inr (.inr (.inl (by decide))) }

end Store

end Recurrence
