import Recurrence.Proofs.Series.Truncation
import Recurrence.Proofs.Store.Legible
import Recurrence.Proofs.Store.Split

/-! What a split leaves of the old series: its occurrences before the day of the split, as they
were. -/

namespace Recurrence

theorem Rule.IsPlain.endedBy {r : Rule} {last : Date} (plain : r.IsPlain) (year : 1000 ≤ last.year) :
    (r.endedBy last).IsPlain :=
  { plain with
    ends := by
      rintro _ ⟨⟩
      refine ⟨_, rfl, ?_⟩
      cases given : r.ends with
      | none => exact year
      | some s =>
          obtain ⟨d, rfl, early⟩ := plain.ends s given
          rw [Option.map_some, Option.getD_some, Date.earlier]
          split
          · exact year
          · exact early }

open DateText (Standpoint)

theorem Event.ofRow_endedRow {row : EventRow} {event : Event} {old : Rule} {here : Standpoint}
    {last : Date} {text : Text} (c : Conditions) (read : Event.ofRow here row = .ok event)
    (plain : (old.endedBy last).IsPlain) (written : (old.endedBy last).write = .ok text)
    (later : Standpoint) :
    ∃ ended, Event.ofRow later (Tables.endedRow c old last text row) = .ok ended
      ∧ ended.start = event.start ∧ ended.finish = event.finish
      ∧ ended.rule? later = .ok (some (old.endedBy last)) := by
  obtain ⟨start, begins, read⟩ := bind_eq_ok.mp read
  obtain ⟨finish, finishes, read⟩ := bind_eq_ok.mp read
  obtain ⟨endDate, -, read⟩ := bind_eq_ok.mp read
  cases read
  have kept : ((old.endedBy last).ends.bind fun s => DateText.retold? later.base s.date)
      = (old.endedBy last).ends.map Stamp.date := by
    cases given : (old.endedBy last).ends with
    | none => rfl
    | some s =>
        obtain ⟨d, rfl, year⟩ := plain.ends s given
        exact DateText.retold?_of_year year later.base
  rw [Event.ofRow, Tables.endedRow]
  dsimp only
  rw [begins, ok_bind, finishes, ok_bind, endDay?_ends, ok_bind]
  exact ⟨_, rfl, rfl, rfl, Event.rule?_of_columns plain written rfl kept later⟩

namespace Tables

theorem occurrences_eq_ok {t : Tables} {c : Conditions} {id : Int} {event : Event} {rule : Rule}
    {first last : Moment} {inside : List Occurrence} {told : Option Rule}
    (read : t.read c.standpoint id = .ok event)
    (recurring : event.rule? c.standpoint = .ok (some rule)) :
    t.occurrences c id first last = .ok (inside, told)
      ↔ told = some rule ∧ ∃ overrides, t.overrides c.standpoint id = .ok overrides
        ∧ ∃ all, Series.expand ⟨event.start, event.finish, rule⟩ (OverrideSet.ofList overrides)
            ⟨some (.moment last), c.queryLimit, c.horizonYears⟩ = .ok all
          ∧ occurrencesWithin first last all = .ok inside ∧ ∃ text, rule.write = .ok text := by
  rw [occurrences, read, ok_bind, recurring, ok_bind]
  dsimp only
  simp only [bind_eq_ok, Except.ok.injEq, Prod.mk.injEq]
  constructor
  · rintro ⟨overrides, given, all, expanded, _, within, text, written, rfl, rfl⟩
    exact ⟨rfl, overrides, given, all, expanded, within, text, written⟩
  · rintro ⟨rfl, overrides, given, all, expanded, within, text, written⟩
    exact ⟨overrides, given, all, expanded, inside, within, text, written, rfl, rfl⟩

section Alike

variable {t : Tables} {coded : Prop} {here later : Standpoint}

theorem Legible.read_eq (h : t.Legible coded) (same : here.base = later.base) (id : Int) :
    t.read here id = t.read later id := by
  unfold read
  cases storedInteger id with
  | error fault => rfl
  | ok key =>
      rw [ok_bind, ok_bind]
      cases found : t.event? key with
      | none => rfl
      | some row =>
          obtain ⟨_, _, _, records, -⟩ := h.records row (event?_eq_some found).1
          exact Event.ofRow_eq records same

theorem Legible.overrides_eq (h : t.Legible coded) (same : here.base = later.base) (id : Int) :
    t.overrides here id = t.overrides later id := by
  unfold overrides
  cases storedInteger id with
  | error fault => rfl
  | ok key =>
      rw [ok_bind, ok_bind]
      apply mapM_congr
      intro x member
      obtain ⟨d, date⟩ := h.days x (Stores.mem_exceptionsOf.mp member).1
      exact ExceptionRow.toOverride_eq date same

end Alike

end Tables

theorem year_of_eve {day last : Date} (late : (⟨1000, 1, 2, by decide⟩ : Date) ≤ day)
    (eve : day.addDays (-1) = .ok last) : 1000 ≤ last.year := by
  have before := Date.addDays_eq_ok_iff.mp eve
  rw [Date.le_iff] at late
  by_contra early
  have := @Date.ordinal_lt_of_year last ⟨1000, 1, 1, by decide⟩ (Nat.lt_of_not_le early)
  have first : (⟨1000, 1, 1, by decide⟩ : Date).ordinal + 1 = (⟨1000, 1, 2, by decide⟩ : Date).ordinal := by
    decide
  omega

namespace Store

/-- What a successful split leaves: the row of the old series ended by the day before, and the row
of the new one. -/
theorem splitSeries_eq_ok {s s' : Store} {c : Conditions} {id new : Int} {day : Date}
    {rule : Option Rule} {title : Option Text} {today : Option Date}
    (h : s.call (splitSeries c id day rule title today) = (.ok new, s')) :
    ∃ event old fresh last text, s.tables.read c.standpoint id = .ok event
      ∧ event.rule? c.standpoint = .ok (some old) ∧ rule.getD { old with count := none } = fresh
      ∧ fresh.check (today.getD c.today) = .ok () ∧ day.addDays (-1) = .ok last
      ∧ (old.endedBy last).write = .ok text
      ∧ ∃ t notes, (s.tables.updateEvent id (Tables.endedRow c old last text)).continued c day title
          event fresh = .ok (t, new) ∧ s' = ⟨t, t, notes⟩ := by
  obtain ⟨notes, outcome⟩ := s.call_splitSeries c id day rule title today
  rw [h] at outcome
  cases first : s.tables.shortened c id day rule today with
  | error fault =>
      rw [first] at outcome
      cases outcome
  | ok result =>
      obtain ⟨event, fresh, ended⟩ := result
      rw [first] at outcome
      obtain ⟨t, second, left⟩ := settle_eq_ok outcome.symm
      obtain ⟨read, old, recurring, given, checked, last, before, text, written, -, rfl⟩ :=
        Tables.shortened_eq_ok.mp first
      exact ⟨event, old, fresh, last, text, read, recurring, given, checked, before, written, t, notes,
        second, left⟩

theorem sound_of_splitSeries {s s' : Store} {c : Conditions} {id new : Int} {day : Date}
    {rule : Option Rule} {title : Option Text} {today : Option Date} (sound : s.Holds Tables.Sound)
    (split : s.call (splitSeries c id day rule title today) = (.ok new, s')) :
    s'.Holds Tables.Sound := by
  have next : s.after c (.split id day rule title today) = s' := congrArg Prod.snd split
  exact next ▸ sound.after c fun _ made => made.keeps_sound

/-- The old series keeps its occurrences before the day of the split: whenever they could be fetched
before the split, they are fetched afterwards less those on that day and later ones, with the slots,
the flags and the order they had. The rule keeps its count. The base year is that of one run of the
program. -/
theorem occurrences_of_splitSeries {s s' : Store} {c before after : Conditions} {id new : Int}
    {day : Date} {rule : Option Rule} {title : Option Text} {today : Option Date}
    {first last : Moment} {listed : List Occurrence} {told : Option Rule}
    (run : Reaches Call.IsCoded {} s) (year : (⟨1000, 1, 2, by decide⟩ : Date) ≤ day)
    (split : s.call (splitSeries c id day rule title today) = (.ok new, s'))
    (naiveFirst : first.offset = none) (naiveLast : last.offset = none)
    (base : before.base = c.base) (base' : after.base = c.base)
    (limit : after.queryLimit = before.queryLimit)
    (horizon : after.horizonYears = before.horizonYears)
    (found : (s.call (getOccurrences before id first last)).1 = .ok (listed, told)) :
    ∃ told', (s'.call (getOccurrences after id first last)).1
      = .ok (listed.filter fun o => decide (o.start.date < day), told') := by
  have sound : s.Holds Tables.Sound :=
    run.holds ⟨Tables.sound_empty, Tables.sound_empty⟩ fun _ _ _ made => made.keeps_sound
  have legible : s.Holds (Tables.Legible True) := run.legible fun _ _ coded => coded
  have sound' := sound_of_splitSeries sound split
  obtain ⟨event, old, fresh, last', text, read, recurring, -, -, eve, written, t, notes, second, rfl⟩ :=
    splitSeries_eq_ok split
  obtain ⟨row, member, rfl, reading⟩ := sound.2.read_eq_ok.mp read
  obtain ⟨begins, ends, given, records, coded⟩ := legible.2.records row member
  have told' := Event.rule?_of_records records (coded trivial) reading
  obtain ⟨r, rfl, same⟩ :=
    Option.map_eq_some_iff.mp (Except.ok.inj (told'.symm.trans recurring))
  -- The old rule was written into its row, so it is plain as it is read, and plain when it is ended.
  have plain : (old.endedBy last').IsPlain := by
    obtain ⟨_, given, -⟩ := map_eq_ok.mp records.columns
    rw [← same]
    exact (Rule.isPlain_stored (coded trivial r rfl) given _).endedBy (year_of_eve year eve)
  -- Before: the event is read as the split has read it.
  have reading' : Event.ofRow before.standpoint row = .ok event :=
    (Event.ofRow_eq records base).trans reading
  have recurring' : event.rule? before.standpoint = .ok (some old) := by
    rw [Event.rule?_of_records records (coded trivial) reading', ← same, Option.map_some]
    exact congrArg (fun year => Except.ok (some (r.stored year))) base
  obtain ⟨notes', fetched⟩ := s.call_getOccurrences before row.id first last
  rw [fetched] at found
  obtain ⟨-, overrides, overridden, all, expanded, within, -⟩ :=
    (Tables.occurrences_eq_ok (sound.2.read_eq_ok.mpr ⟨row, member, rfl, reading'⟩) recurring').mp found
  -- Afterwards: the row is ended, and the exceptions are the same.
  obtain ⟨ended, reading'', start, finish, shorter⟩ :=
    Event.ofRow_endedRow c reading plain written after.standpoint
  obtain ⟨⟨_, _⟩, -, added⟩ := bind_eq_ok.mp second
  obtain ⟨_, newRow, -, -, -, -, -, left⟩ := Tables.added_eq_ok added
  have member' : Tables.endedRow c old last' text row ∈ t.events := by
    rw [left]
    apply List.mem_append_left
    refine List.mem_map.mpr ⟨row, member, ?_⟩
    rw [beq_self_eq_true, if_pos rfl]
  have overridden' : t.overrides after.standpoint row.id = .ok overrides := by
    rw [left]
    exact (legible.2.overrides_eq (base'.trans base.symm) row.id).trans overridden
  have read' : t.read after.standpoint row.id = .ok ended :=
    sound'.2.read_eq_ok.mpr ⟨_, member', rfl, reading''⟩
  have shorterAll := Series.expand_endedBy last' expanded
  rw [← start, ← finish, ← limit, ← horizon] at shorterAll
  have within' : occurrencesWithin first last (all.filter fun o => decide (o.start.date ≤ last'))
      = .ok (listed.filter fun o => decide (o.start.date < day)) := by
    have naive : ∀ o ∈ all, o.start.offset = none := by
      intro o inside
      obtain ⟨_, begins⟩ := Series.start_of_expand expanded o inside
      rw [begins]
      exact (Event.offset_of_ofRow reading).1
    have eveOf : ∀ d : Date, decide (d ≤ last') = decide (d < day) := by
      intro d
      have := Date.addDays_eq_ok_iff.mp eve
      rw [decide_eq_decide, Date.le_iff, Date.lt_iff]
      omega
    simp only [eveOf]
    exact occurrencesWithin_filter naiveFirst naiveLast naive within _
  obtain ⟨notes'', fetched'⟩ := Store.call_getOccurrences ⟨t, t, notes⟩ after row.id first last
  refine ⟨some (old.endedBy last'), ?_⟩
  rw [fetched']
  exact (Tables.occurrences_eq_ok read' shorter).mpr
    ⟨rfl, overrides, overridden', _, shorterAll, within', text, written⟩

theorem isCoded_twiceAFortnight : twiceAFortnight.IsCoded := by
  intro c member
  simp only [twiceAFortnight, List.mem_cons, List.not_mem_nil, or_false] at member
  rcases member with rfl | rfl
  · exact ⟨.monday, rfl⟩
  · exact ⟨.wednesday, rfl⟩

/-- Of five occurrences the second is cancelled. A split on the day of the fourth leaves the first and
the third. -/
theorem occurrences_of_splitSeries_twiceAFortnight :
    let start : Moment := ⟨⟨2024, 1, 1, by decide⟩, ⟨9, 0, 0, 0, by decide⟩, none⟩
    let finish : Moment := ⟨⟨2024, 1, 1, by decide⟩, ⟨10, 30, 0, 0, by decide⟩, none⟩
    let last : Moment := ⟨⟨2024, 3, 31, by decide⟩, ⟨0, 0, 0, 0, by decide⟩, none⟩
    let day : Date := ⟨2024, 1, 17, by decide⟩
    let s := (Store.after {} newYearsEve (.create (some ['a']) start finish twiceAFortnight none)).after
      newYearsEve (.cancel 1 ⟨2024, 1, 3, by decide⟩)
    let split := splitSeries newYearsEve 1 day none none none
    ∃ listed told told', (s.call (getOccurrences newYearsEve 1 start last)).1 = .ok (listed, told)
      ∧ listed.map (fun o => o.start.date.day) = [1, 15, 17, 29]
      ∧ (s.call split).1 = .ok 2
      ∧ ((s.call split).2.call (getOccurrences newYearsEve 1 start last)).1
        = .ok (listed.filter fun o => decide (o.start.date < day), told') := by
  intro start finish last day s split
  have run : Reaches Call.IsCoded {} s := by
    apply Reaches.call
    · apply Reaches.call _ _ .start
      rintro _ ⟨⟩
      exact isCoded_twiceAFortnight
    · exact fun _ absent => nomatch absent
  have fetched : (s.call (getOccurrences newYearsEve 1 start last)).1.map
      (fun answer => answer.1.map fun o => o.start.date.day) = .ok [1, 15, 17, 29] := by
    decide +kernel
  have made : (s.call split).1 = .ok 2 := by decide +kernel
  clear_value s
  obtain ⟨⟨listed, told⟩, found, days⟩ := map_eq_ok.mp fetched
  have whole : s.call split = (.ok 2, (s.call split).2) := Prod.ext made rfl
  obtain ⟨told', left⟩ :=
    @occurrences_of_splitSeries s (s.call split).2 newYearsEve newYearsEve newYearsEve 1 2 day none none
      none start last listed told run (by decide) whole rfl rfl rfl rfl rfl rfl found
  exact ⟨listed, told, told', found, days, made, left⟩

end Store

end Recurrence
