import Recurrence.Proofs.Rule.Stored
import Recurrence.Proofs.Store.StoredMoment
import Recurrence.Store.Series

/-! Reading back rows. The row of an event whose rule is plain and whose moments a text can hold is
read as that event, and the row of an exception on a day of the year 1000 or later as its override. -/

namespace Recurrence

open DateText (Standpoint)

theorem Event.rule?_of_columns {e : Event} {r : Rule} {t : Text} (plain : r.IsPlain)
    (written : r.write = .ok t) (text : e.ruleText = some t)
    (kept : e.endDate = r.ends.map Stamp.date) (here : Standpoint) :
    e.rule? here = .ok (some r) := by
  rw [rule?_of_read? text (Rule.read?_of_write plain written here), kept, Rule.told]
  have day : ∀ s, r.ends = some s → Stamp.day s.date = s := by
    intro s given
    obtain ⟨d, rfl, _⟩ := plain.ends s given
    rfl
  rcases r with ⟨frequency, interval, byDay, byMonthDay, byMonth, count, ends⟩
  dsimp only at day
  cases count with
  | none =>
      cases ends with
      | none => rfl
      | some s => rfl
  | some n =>
      cases ends with
      | none => rfl
      | some s =>
          have same := day s rfl
          simp only [Option.isSome_some, if_true, Option.isSome_none, Bool.false_eq_true, if_false,
            Option.map_some, same]

/-- The column of an end holds its compact date. -/
theorem Event.endDay?_ends (ends : Option Stamp) (here : Standpoint) :
    endDay? here (ends.map fun s => s.date.compactText)
      = .ok (ends.bind fun s => DateText.retold? here.base s.date) := by
  cases ends with
  | none => rfl
  | some s => exact DateText.day?_eq_retold? s.date here

/-- The row of a series that was added under an id. -/
structure EventRow.Tells (row : EventRow) (title : Text) (start finish : Moment) (rule : Rule) :
    Prop where
  title : row.title = title
  start : row.start = start.compactText
  finish : row.finish = finish.compactText
  ruleText : ∃ t, rule.write = .ok t ∧ row.ruleText = some t
  endDate : row.endDate = rule.ends.map fun s => s.date.compactText
  free : row.parent = none

/-- An event that is read from such a row is the series that was given. -/
structure Event.Tells (e : Event) (id : Int) (title : Text) (start finish : Moment) : Prop where
  id : e.id = id
  title : e.title = title
  start : e.start = start
  finish : e.finish = finish

theorem Event.ofRow_of_tells {row : EventRow} {title : Text} {start finish : Moment} {rule : Rule}
    (tells : row.Tells title start finish rule) (hs : start.IsStorable) (hf : finish.IsStorable)
    (plain : rule.IsPlain) (here : Standpoint) :
    ∃ e, Event.ofRow here row = .ok e ∧ e.Tells row.id title start finish
      ∧ ∀ later, e.rule? later = .ok (some rule) := by
  obtain ⟨name, begins, finishes, ⟨t, written, text⟩, ends, -⟩ := tells
  have endDate : (rule.ends.bind fun s => DateText.retold? here.base s.date)
      = rule.ends.map Stamp.date := by
    cases given : rule.ends with
    | none => rfl
    | some s =>
        obtain ⟨d, rfl, year⟩ := plain.ends s given
        exact DateText.retold?_of_year year here.base
  rw [Event.ofRow, begins, finishes, StoredMoment.read_of_isStorable hs,
    StoredMoment.read_of_isStorable hf, ok_bind, ok_bind, ends, endDay?_ends, ok_bind]
  refine ⟨_, rfl, ⟨rfl, name, rfl, rfl⟩, ?_⟩
  exact Event.rule?_of_columns plain written text endDate

theorem OverrideKind.ofName?_name (k : OverrideKind) : ofName? k.name = some k := by
  cases k <;> decide

namespace ExceptionRow

/-- A row holds the override of a day of the year 1000 or later. -/
structure Holds (x : ExceptionRow) (o : Override) : Prop where
  date : x.date = o.date.compactText
  year : 1000 ≤ o.date.year
  kind : x.kind = o.kind
  replacement : o.replacement = x.replacement.map decimalInt

/-- A row whose day can be read tells an override of that day. -/
theorem toOverride_of_day? {x : ExceptionRow} {d : Date} {here : Standpoint}
    (told : DateText.day? here x.date = .ok (some d)) (fits : x.replacement.all fitsWord = true) :
    x.toOverride here = .ok ⟨d, x.kind, x.replacement.map decimalInt⟩ := by
  have id : ((x.replacement.map RecordValue.integer).getD .nothing).id?
      = .ok (x.replacement.map decimalInt) := by
    cases given : x.replacement with
    | none => rfl
    | some n =>
        rw [given, Option.all_some] at fits
        have short := Integer.write_of_isShort (Integer.isShort_of_fitsWord fits)
        rw [Option.map_some, Option.getD_some, RecordValue.id?, RecordValue.asText,
          RecordValue.shown, short]
        · rfl
        · exact nofun
        · exact nofun
  have named : (RecordValue.text x.kind.name).kind = .ok x.kind := by
    rw [RecordValue.kind, OverrideKind.ofName?_name]
  have day : (RecordValue.text x.date).day here = .ok d := by
    rw [RecordValue.day]
    · simp only [RecordValue.asText, ok_bind, told]
    · exact nofun
  rw [toOverride, Override.ofRecord]
  simp only [Option.getD_none, day, ok_bind, Override.ofValues, named, id]

theorem toOverride_of_holds {x : ExceptionRow} {o : Override} (h : x.Holds o)
    (fits : x.replacement.all fitsWord = true) (here : Standpoint) : x.toOverride here = .ok o := by
  obtain ⟨date, year, kind, replacement⟩ := h
  have told : DateText.day? here x.date = .ok (some o.date) := by
    rw [date]
    exact DateText.day?_compactText year here
  rw [toOverride_of_day? told fits, kind, ← replacement]

theorem day?_of_toOverride {x : ExceptionRow} {o : Override} {here : Standpoint}
    (h : x.toOverride here = .ok o) : DateText.day? here x.date = .ok (some o.date) := by
  obtain ⟨date, told, h⟩ := bind_eq_ok.mp h
  obtain ⟨kind, -, h⟩ := bind_eq_ok.mp h
  obtain ⟨replacement, -, h⟩ := bind_eq_ok.mp h
  cases h
  rw [Option.getD_none, RecordValue.day] at told
  · simp only [RecordValue.asText, ok_bind] at told
    obtain ⟨day?, read, told⟩ := bind_eq_ok.mp told
    split at told
    · cases told
      exact read
    · cases told
  · exact nofun

end ExceptionRow

end Recurrence
