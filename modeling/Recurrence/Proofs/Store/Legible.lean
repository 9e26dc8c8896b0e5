import Recurrence.Proofs.Store.Reading
import Recurrence.Proofs.Store.Soundness

/-! What the rows hold: moments and the columns of a rule in every event, and a day in every
exception, all of them as compact texts. So it does not matter on which day they are read. -/

namespace Recurrence

namespace Tables

/-- Rows as calls write them; the rules in them have weekdays only if `coded` is known. -/
structure Legible (coded : Prop) (t : Tables) : Prop where
  records : ∀ e ∈ t.events, ∃ begins ends rule, e.Records begins ends rule
    ∧ (coded → ∀ r, rule = some r → r.IsCoded)
  days : ∀ x ∈ t.exceptions, ∃ d : Date, x.date = d.compactText

theorem Legible.of_thins {coded : Prop} {t t' : Tables} (h : t.Legible coded) (thin : t.ThinsTo t') :
    t'.Legible coded :=
  ⟨fun e member => h.records e (thin.mem_events member),
    fun x member => h.days x (thin.mem_exceptions member)⟩

end Tables

namespace Store

variable {coded : Prop}

theorem Call.Makes.keeps_legible {call : Call} {w : Write} (made : call.Makes w)
    (given : coded → call.IsCoded) : w.Keeps (Tables.Legible coded) := by
  intro t t' h applied
  cases made with
  | insert row _ records weekdays =>
      obtain ⟨⟨after, id⟩, inserted, rfl⟩ := map_eq_ok.mp applied
      obtain ⟨-, -, e, numbered, rfl⟩ := Tables.insertEvent_eq_ok inserted
      refine ⟨?_, h.days⟩
      intro a member
      rcases List.mem_append.mp member with old | new
      · exact h.records a old
      · rw [List.mem_singleton.mp new]
        cases numbered
        exact ⟨_, _, _, ⟨records.start, records.finish, records.columns⟩,
          fun known => weekdays (given known)⟩
  | setRule id columns modified _ written weekdays =>
      cases applied
      refine ⟨?_, h.days⟩
      intro a member
      obtain ⟨e, there, rfl⟩ := List.mem_map.mp member
      obtain ⟨begins, ends, rule, records, known⟩ := h.records e there
      split
      · exact ⟨begins, ends, _, ⟨records.start, records.finish, written⟩,
          fun known => weekdays (given known)⟩
      · exact ⟨begins, ends, rule, records, known⟩
  | put id day kind replacement =>
      obtain ⟨-, events, -, written⟩ := Tables.putException_eq_ok applied
      refine ⟨events ▸ h.records, ?_⟩
      intro y member
      rcases written with changed | ⟨-, added⟩
      · rw [changed] at member
        obtain ⟨x, old, rfl⟩ := List.mem_map.mp member
        obtain ⟨d, date⟩ := h.days x old
        refine ⟨d, ?_⟩
        split <;> exact date
      · rw [added] at member
        rcases List.mem_append.mp member with old | new
        · exact h.days y old
        · rw [List.mem_singleton.mp new]
          exact ⟨day, rfl⟩
  | dropChild | deleteChildren | deleteEvent =>
      cases applied
      exact h.of_thins (t.thinsTo_deletion _)
  | removeException | deleteOwn =>
      cases applied
      exact h.of_thins (t.thinsTo_deleteExceptions _)

theorem Reaches.legible {allowed : Call → Prop} {s : Store} (run : Reaches allowed {} s)
    (given : coded → ∀ call, allowed call → call.IsCoded) : s.Holds (Tables.Legible coded) := by
  have empty : Tables.Legible coded {} := ⟨nofun, nofun⟩
  apply run.holds ⟨empty, empty⟩
  exact fun call permitted w made => made.keeps_legible fun known => given known call permitted

end Store

/-! Reading such rows. -/

open DateText (Standpoint)

section Rows

variable {row : EventRow} {begins ends : Moment} {rule : Option Rule} {e : Event}

theorem EventRow.Records.endDate_eq (h : row.Records begins ends rule) :
    row.endDate = (rule.bind Rule.ends).map fun s => s.date.compactText := by
  have columns := h.columns
  cases rule with
  | none => exact (congrArg RuleColumns.endDate (Except.ok.inj columns)).symm
  | some r =>
      obtain ⟨text, -, same⟩ := map_eq_ok.mp columns
      exact (congrArg RuleColumns.endDate same).symm

theorem Event.endDay?_of_records (h : row.Records begins ends rule) (here : Standpoint) :
    endDay? here row.endDate
      = .ok ((rule.bind Rule.ends).bind fun s => DateText.retold? here.base s.date) := by
  rw [h.endDate_eq, endDay?_ends]

theorem Event.ofRow_eq {here later : Standpoint} (h : row.Records begins ends rule)
    (same : here.base = later.base) : Event.ofRow here row = Event.ofRow later row := by
  rw [Event.ofRow, Event.ofRow, endDay?_of_records h, endDay?_of_records h, same]

/-- The rule of an event is the one its row was given, as far as columns tell it. -/
theorem Event.rule?_of_records {here : Standpoint} (h : row.Records begins ends rule)
    (coded : ∀ r, rule = some r → r.IsCoded) (read : Event.ofRow here row = .ok e) :
    e.rule? here = .ok (rule.map (Rule.stored here.base)) := by
  have columns := h.columns
  obtain ⟨start, -, read⟩ := bind_eq_ok.mp read
  obtain ⟨finish, -, read⟩ := bind_eq_ok.mp read
  rw [endDay?_of_records h, ok_bind] at read
  cases read
  cases rule with
  | none =>
      have text : none = row.ruleText := congrArg RuleColumns.text (Except.ok.inj columns)
      rw [rule?, ← text]
      rfl
  | some r =>
      obtain ⟨text, written, same⟩ := map_eq_ok.mp columns
      exact Event.rule?_of_coded (coded r rfl) written (congrArg RuleColumns.text same).symm rfl

end Rows

theorem ExceptionRow.toOverride_eq {x : ExceptionRow} {d : Date} {here later : Standpoint}
    (h : x.date = d.compactText) (same : here.base = later.base) :
    x.toOverride here = x.toOverride later := by
  have day : (RecordValue.text x.date).day here = (RecordValue.text x.date).day later := by
    simp only [h, RecordValue.day, RecordValue.asText, ok_bind, DateText.day?_eq_retold?, same]
  rw [toOverride, toOverride, Override.ofRecord, Override.ofRecord]
  simp only [Option.getD_none, day]

end Recurrence
