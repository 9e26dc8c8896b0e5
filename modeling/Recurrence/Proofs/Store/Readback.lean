import Recurrence.Proofs.Store.Written

/-! Reading back what was written down. Years of less than four digits are written without zeros in
front. A moment of such a year is not read as it was written, and an exception on a day of such a
year cannot be read at all, unless the year has two digits. -/

namespace Recurrence

/-- A moment as far as its text tells it: to the second, without an offset. -/
def Moment.told (m : Moment) : Moment := ⟨m.date, m.time.wholeSecond, none⟩

theorem StoredMoment.read_eq_told_iff {m : Moment} :
    read m.compactText = .ok m.told ↔ 1000 ≤ m.date.year :=
  ⟨fun told => (isStorable_of_read told).year, read_compactText⟩

theorem Event.ofRow_told_iff {row : EventRow} {begins ends : Moment}
    (start : row.start = begins.compactText) (finish : row.finish = ends.compactText)
    {here : DateText.Standpoint} {last : Option Date} (bounded : endDay? here row.endDate = .ok last) :
    (∃ e, Event.ofRow here row = .ok e ∧ e.start = begins.told ∧ e.finish = ends.told)
      ↔ 1000 ≤ begins.date.year ∧ 1000 ≤ ends.date.year := by
  rw [← StoredMoment.read_eq_told_iff, ← StoredMoment.read_eq_told_iff, ← start, ← finish]
  constructor
  · rintro ⟨e, read, first, last⟩
    obtain ⟨m, begun, read⟩ := bind_eq_ok.mp read
    obtain ⟨m', ended, read⟩ := bind_eq_ok.mp read
    obtain ⟨last, -, read⟩ := bind_eq_ok.mp read
    cases read
    exact ⟨first ▸ begun, last ▸ ended⟩
  · rintro ⟨begun, ended⟩
    rw [Event.ofRow, begun, ok_bind, ended, ok_bind, bounded, ok_bind]
    exact ⟨_, rfl, rfl, rfl⟩

namespace Store

variable {s : Store} {row : EventRow}

theorem exists_getExceptions_iff (reachable : s.Reachable) (there : row ∈ s.tables.events)
    (c : Conditions) :
    (∃ os, (s.call (getExceptions c row.id)).1 = .ok os)
      ↔ ∀ x ∈ s.tables.exceptions, x.parent = row.id → ∀ d : Date, x.date = d.compactText →
        1000 ≤ d.year ∨ 10 ≤ d.year ∧ d.year < 100 := by
  have sound := reachable.sound.2
  have legible : s.tables.Legible False := (Reaches.legible reachable nofun).2
  have key : storedInteger row.id = .ok row.id :=
    storedInteger_eq_ok.mpr ⟨sound.fitsWord_id there, rfl⟩
  rw [call_getExceptions, Tables.overrides, key, ok_bind, exists_mapM_iff]
  constructor
  · intro each x member owned d date
    obtain ⟨o, told⟩ := each x (Tables.Stores.mem_exceptionsOf.mpr ⟨member, owned⟩)
    apply (DateText.exists_day?_iff d c.standpoint).mp
    rw [← date]
    exact ⟨o.date, ExceptionRow.day?_of_toOverride told⟩
  · intro each x member
    obtain ⟨member, owned⟩ := Tables.Stores.mem_exceptionsOf.mp member
    obtain ⟨d, date⟩ := legible.days x member
    obtain ⟨e, told⟩ := (DateText.exists_day?_iff d c.standpoint).mpr (each x member owned d date)
    rw [← date] at told
    exact ⟨_, ExceptionRow.toOverride_of_day? told (sound.replacements x member)⟩

/-- What can be read back of an event after any calls: the start and the end that were written down
for it exactly where both lie in the year 1000 or later, and its exceptions exactly where none is
on a day of a year of one digit or of three. -/
theorem readable_iff (reachable : s.Reachable) (there : row ∈ s.tables.events) :
    ((∃ begins ends, s.Wrote row.id begins ends)
      ∧ ∀ begins ends, s.Wrote row.id begins ends → ∀ c,
        (∃ e, (s.call (getEvent c row.id)).1 = .ok e ∧ e.start = begins.told
            ∧ e.finish = ends.told)
          ↔ 1000 ≤ begins.date.year ∧ 1000 ≤ ends.date.year)
    ∧ ∀ c, (∃ os, (s.call (getExceptions c row.id)).1 = .ok os)
      ↔ ∀ x ∈ s.tables.exceptions, x.parent = row.id → ∀ d : Date, x.date = d.compactText →
        1000 ≤ d.year ∨ 10 ≤ d.year ∧ d.year < 100 := by
  refine ⟨⟨reachable.exists_wrote.2 row there, ?_⟩, exists_getExceptions_iff reachable there⟩
  intro begins ends wrote c
  obtain ⟨start, finish⟩ := wrote.texts.2.told row there rfl
  have legible : s.tables.Legible False := (Reaches.legible reachable nofun).2
  obtain ⟨_, _, _, records, -⟩ := legible.records row there
  rw [← Event.ofRow_told_iff start finish (Event.endDay?_of_records records c.standpoint)]
  have read : ∀ e, (s.call (getEvent c row.id)).1 = .ok e ↔ Event.ofRow c.standpoint row = .ok e := by
    intro e
    rw [call_getEvent, reachable.sound.2.read_eq_ok]
    constructor
    · rintro ⟨row', there', same, told⟩
      rwa [reachable.sound.2.eq_of_id there' there same] at told
    · exact fun told => ⟨row, there, rfl, told⟩
  simp only [read]

/-- A series of the year 999 is not read as it was written. One of the year 2024 is, but not its
exceptions once it is cancelled on a day of the year 999. -/
theorem readable_everyDay :
    let nine : TimeOfDay := ⟨9, 0, 0, 0, by decide⟩
    let ten : TimeOfDay := ⟨10, 0, 0, 0, by decide⟩
    let early : Date := ⟨999, 12, 31, by decide⟩
    let late : Date := ⟨2024, 1, 1, by decide⟩
    let s := Store.after {} newYearsEve
      (.create (some ['a']) ⟨early, nine, none⟩ ⟨early, ten, none⟩ everyDay none)
    let s' := (Store.after {} newYearsEve
      (.create (some ['a']) ⟨late, nine, none⟩ ⟨late, ten, none⟩ everyDay none)).after newYearsEve
        (.cancel 1 ⟨999, 1, 5, by decide⟩)
    (¬ ∃ e, (s.call (getEvent newYearsEve 1)).1 = .ok e ∧ e.start = ⟨early, nine, none⟩
        ∧ e.finish = ⟨early, ten, none⟩)
      ∧ (∃ e, (s'.call (getEvent newYearsEve 1)).1 = .ok e ∧ e.start = ⟨late, nine, none⟩
        ∧ e.finish = ⟨late, ten, none⟩)
      ∧ ¬ ∃ os, (s'.call (getExceptions newYearsEve 1)).1 = .ok os := by
  intro nine ten early late s s'
  have reachable : s.Reachable := .call _ _ .start trivial
  have reachable' : s'.Reachable := .call _ _ (.call _ _ .start trivial) trivial
  have wrote : s.Wrote 1 ⟨early, nine, none⟩ ⟨early, ten, none⟩ :=
    ⟨{}, newYearsEve, _, .start, rfl, by decide, by decide +kernel, .start⟩
  have wrote' : s'.Wrote 1 ⟨late, nine, none⟩ ⟨late, ten, none⟩ :=
    ⟨{}, newYearsEve, _, .start, rfl, by decide, by decide +kernel, .call _ _ .start trivial⟩
  have there : ∃ row ∈ s.tables.events, row.id = 1 := by decide +kernel
  have there' : ∃ row ∈ s'.tables.events, row.id = 1 := by decide +kernel
  have exception : ∃ x ∈ s'.tables.exceptions, x.parent = 1
      ∧ x.date = (⟨999, 1, 5, by decide⟩ : Date).compactText := by
    decide +kernel
  clear_value s s'
  obtain ⟨row, member, same⟩ := there
  obtain ⟨row', member', same'⟩ := there'
  have first := readable_iff reachable member
  have second := readable_iff reachable' member'
  rw [same] at first
  rw [same'] at second
  refine ⟨?_, (second.1.2 _ _ wrote' newYearsEve).mpr (by decide), ?_⟩
  · exact fun read => absurd ((first.1.2 _ _ wrote newYearsEve).mp read) (by decide)
  · intro read
    obtain ⟨x, listed, owned, date⟩ := exception
    exact absurd ((second.2 newYearsEve).mp read x listed owned _ date) (by decide)

end Store

end Recurrence
