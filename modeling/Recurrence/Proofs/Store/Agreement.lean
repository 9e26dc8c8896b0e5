import Recurrence.Proofs.Store.Legible
import Recurrence.Proofs.Store.Overriding
import Recurrence.Proofs.Store.Split

/-! The columns of a rule tell its count and its end a second time, beside its text. Where every rule is
checked before it is stored, the columns and the text never tell different rules, however often the
rule is read back, ended earlier and stored again. -/

namespace Recurrence

open DateText (Standpoint)

namespace Rule

variable {r : Rule} {today : Date}

/-- What is read back of a rule passes the check that the rule passed. -/
theorem Passes.stored (h : r.Passes today) (base : DateText.BaseYear) :
    (r.stored base).Passes Date.first where
  frequency := h.frequency
  interval := by
    rintro _ ⟨⟩
    exact Int.le_max_left _ _
  count := by
    intro n given
    exact h.count n (Option.filter_eq_some_iff.mp given).1
  ends := by
    apply endsBefore_first
    intro s given
    obtain ⟨d, -, rfl⟩ := Option.map_eq_some_iff.mp given
    exact ⟨d, rfl⟩
  byMonthDay := h.byMonthDay
  byMonth := h.byMonth
  byDay := h.byDay

theorem Passes.endedBy (h : r.Passes today) (last : Date) : (r.endedBy last).Passes Date.first :=
  { h with
    ends := by
      apply endsBefore_first
      rintro _ ⟨⟩
      exact ⟨_, rfl⟩ }

theorem Passes.count?_eq (h : r.Passes today) : r.count? = r.count := by
  unfold count?
  cases given : r.count with
  | none => rfl
  | some n =>
      have positive := h.count n given
      have nonzero : n ≠ 0 := by omega
      rw [Option.filter_some, if_pos (decide_eq_true nonzero)]

end Rule

namespace EventRow

/-- The row of an event whose rule has passed the check. -/
def IsChecked (row : EventRow) : Prop :=
  ∃ begins ends rule, row.Records begins ends rule
    ∧ ∀ r, rule = some r → r.Passes Date.first

/-- The event that is made of a row has its rule from the text and the end of the row. -/
structure Makes (row : EventRow) (here : Standpoint) (e : Event) : Prop where
  ruleText : e.ruleText = row.ruleText
  endDate : Event.endDay? here row.endDate = .ok e.endDate

/-- The columns of a rule agree on the rule, where they are read: the text is read as a rule with the
count of the column, and the rule of every event made of the row ends with the column and passes
the check, its end left aside. A row without a text has no count and no end. -/
structure Agrees (row : EventRow) (here : Standpoint) : Prop where
  recurring : ∀ t, row.ruleText = some t →
    (∃ told, Rule.read? here t = .ok (some told) ∧ row.count = told.count)
      ∧ ∃ last, Event.endDay? here row.endDate = .ok last
        ∧ ∀ e, row.Makes here e → ∃ r, e.rule? here = .ok (some r)
          ∧ last.map Stamp.day = r.ends ∧ r.check Date.first = .ok ()
  single : row.ruleText = none → row.count = none ∧ row.endDate = none

variable {row : EventRow} {here : Standpoint}

theorem makes_of_ofRow {e : Event} (read : Event.ofRow here row = .ok e) : row.Makes here e := by
  obtain ⟨start, -, read⟩ := bind_eq_ok.mp read
  obtain ⟨finish, -, read⟩ := bind_eq_ok.mp read
  obtain ⟨last, ending, read⟩ := bind_eq_ok.mp read
  cases read
  exact ⟨rfl, ending⟩

theorem IsChecked.agrees (h : row.IsChecked) (here : Standpoint) : row.Agrees here := by
  obtain ⟨begins, ends, rule, records, passed⟩ := h
  have columns := records.columns
  cases rule with
  | none =>
      obtain ⟨text, ending, count⟩ := RuleColumns.mk.inj (Except.ok.inj columns)
      exact ⟨fun t given => absurd (text.trans given) nofun, fun _ => ⟨count.symm, ending.symm⟩⟩
  | some r =>
      have passes := passed r rfl
      obtain ⟨text, written, same⟩ := map_eq_ok.mp columns
      obtain ⟨same, ending, count⟩ := RuleColumns.mk.inj same
      have read := Rule.read?_of_coded passes.byDay written here
      have kept := Event.endDay?_of_records records here
      refine ⟨?_, fun none => absurd (same.trans none) nofun⟩
      rintro t given
      obtain rfl : text = t := Option.some.inj (same.trans given)
      refine ⟨⟨_, read, count.symm.trans passes.count?_eq.symm⟩, _, kept, ?_⟩
      intro e made
      have last := Except.ok.inj (made.endDate.symm.trans kept)
      refine ⟨r.stored here.base, ?_, rfl, Rule.check_of_passes (passes.stored here.base)⟩
      exact Event.rule?_of_coded passes.byDay written (made.ruleText.trans given) last

/-- The rule of an event that is read from a checked row passes the check. -/
theorem IsChecked.passes {e : Event} {r : Rule} (h : row.IsChecked)
    (read : Event.ofRow here row = .ok e) (recurring : e.rule? here = .ok (some r)) :
    r.Passes Date.first := by
  obtain ⟨begins, ends, rule, records, passed⟩ := h
  have told := Event.rule?_of_records records (fun r given => (passed r given).byDay) read
  obtain ⟨stored, given, rfl⟩ := Option.map_eq_some_iff.mp (Except.ok.inj (told.symm.trans recurring))
  exact (passed stored given).stored here.base

end EventRow

namespace Store

/-- Every rule that the call stores it has checked before. -/
def Call.Checks : Call → Prop
  | .add .. | .updateRule .. => False
  | _ => True

section Checked

/-- All rows are those of events whose rules have passed the check. -/
def Checked (t : Tables) : Prop := ∀ row ∈ t.events, row.IsChecked

variable {s : Store} {t t' : Tables} {c : Conditions} {id : Int}

theorem checked_added {title : Option Text} {begins ends : Moment} {rule : Option Rule}
    {parent : Option Int} (h : Checked t) (passed : ∀ r, rule = some r → r.Passes Date.first)
    (made : t.added c title begins ends rule parent = .ok (t', id)) : Checked t' := by
  obtain ⟨columns, row, given, -, -, -, new, rfl⟩ := Tables.added_eq_ok made
  intro e member
  rcases List.mem_append.mp member with old | fresh
  · exact h e old
  · rw [List.mem_singleton.mp fresh]
    cases title with
    | none => cases new
    | some name =>
        cases new
        exact ⟨begins, ends, rule, ⟨rfl, rfl, given⟩, passed⟩

/-- The row of a series that is ended by a day is checked if the rule it had was. -/
theorem checked_endedRow {old : Rule} {last : Date} {text : Text} (h : Checked t)
    (passes : old.Passes Date.first) (written : (old.endedBy last).write = .ok text) :
    Checked (t.updateEvent id (Tables.endedRow c old last text)) := by
  intro e member
  obtain ⟨row, there, rfl⟩ := List.mem_map.mp member
  obtain ⟨begins, ends, rule, records, passed⟩ := h row there
  split
  · refine ⟨begins, ends, some (old.endedBy last), ⟨records.start, records.finish, ?_⟩, ?_⟩
    · exact map_eq_ok.mpr ⟨text, written, rfl⟩
    · rintro _ ⟨⟩
      exact passes.endedBy last
  · exact ⟨begins, ends, rule, records, passed⟩

theorem Checked.passes_of_read {here : Standpoint} {e : Event} {r : Rule} (h : Checked t)
    (read : t.read here id = .ok e) (recurring : e.rule? here = .ok (some r)) :
    r.Passes Date.first := by
  obtain ⟨key, -, read⟩ := bind_eq_ok.mp read
  split at read
  · cases read
  · rename_i row found
    exact (h row (Tables.event?_eq_some found).1).passes read recurring

theorem Holds.checked_override (held : s.Holds Checked) (day : Date) (kind : OverrideKind)
    (title : Option Text) (start finish : Option Moment) :
    (s.call (overrideOccurrence c id day kind title start finish)).2.Holds Checked := by
  refine (keeps_overrideOccurrence ?_ ?_ ?_ s held.2).holds held
  · intro row begins ends _ records t t' h applied
    obtain ⟨⟨after, new⟩, inserted, rfl⟩ := map_eq_ok.mp applied
    obtain ⟨-, -, e, numbered, rfl⟩ := Tables.insertEvent_eq_ok inserted
    intro a member
    rcases List.mem_append.mp member with old | fresh
    · exact h a old
    · rw [List.mem_singleton.mp fresh]
      cases numbered
      refine ⟨begins, ends, none, ⟨records.start, records.finish, records.columns⟩, ?_⟩
      rintro _ ⟨⟩
  · intro child
    apply Write.keeps_rows
    · exact nofun
    · exact nofun
  · intro replacement _
    apply Write.keeps_rows
    · exact nofun
    · exact nofun

theorem Holds.checked_split (held : s.Holds Checked) (day : Date) (rule : Option Rule)
    (title : Option Text) (today : Option Date) :
    (s.call (splitSeries c id day rule title today)).2.Holds Checked := by
  obtain ⟨notes, outcome⟩ := s.call_splitSeries c id day rule title today
  rw [outcome]
  cases first : s.tables.shortened c id day rule today with
  | error fault => exact held
  | ok result =>
      obtain ⟨event, new, ended⟩ := result
      obtain ⟨read, old, recurring, -, checked, last, -, text, written, -, rfl⟩ :=
        Tables.shortened_eq_ok.mp first
      have kept : Checked (s.tables.updateEvent id (Tables.endedRow c old last text)) :=
        checked_endedRow held.2 (Checked.passes_of_read held.2 read recurring) written
      apply Holds.settle ⟨kept, kept⟩
      intro t child made
      obtain ⟨⟨start, finish⟩, -, made⟩ := bind_eq_ok.mp made
      apply checked_added kept _ made
      rintro _ ⟨⟩
      exact (Rule.passes_of_check checked).onFirst

/-- A call that checks the rules it stores leaves checked rows, whether it succeeds or fails. -/
theorem Holds.checked (held : s.Holds Checked) (c : Conditions) {call : Call} (checks : call.Checks) :
    (s.after c call).Holds Checked := by
  cases call with
  | add => exact checks.elim
  | updateRule => exact checks.elim
  | create title start finish rule today =>
      obtain ⟨notes, outcome⟩ := s.call_createSeries c title start finish rule today
      rw [Store.after, outcome]
      apply held.settle
      intro t id made
      obtain ⟨⟨⟩, checked, made⟩ := bind_eq_ok.mp made
      apply checked_added held.2 _ made
      rintro _ ⟨⟩
      exact (Rule.passes_of_check checked).onFirst
  | modify id day title start finish => exact held.checked_override day .modified title start finish
  | move id day start finish => exact held.checked_override day .moved none start finish
  | split id day rule title today => exact held.checked_split day rule title today
  | _ =>
      apply held.after c
      intro w made
      apply Write.keeps_rows
      · rintro row rfl
        cases made with
        | insert _ owner => cases owner
      · rintro id columns modified rfl
        cases made with
        | setRule _ _ _ ruled => cases ruled

/-- The text of a rule and the columns beside it never drift apart: in every store that calls lead to
from an empty one, if each call checks the rules that it stores, the columns of every row agree on
whatever the day and the base on which they are read. The event that is got of an id is made of the
row under the id. -/
theorem agrees_of_checks (run : Reaches Call.Checks {} s) :
    (s.Holds fun t => ∀ row ∈ t.events, ∀ here, row.Agrees here)
      ∧ ∀ c id e, (s.call (getEvent c id)).1 = .ok e →
        ∃ row ∈ s.tables.events, row.id = id ∧ row.Makes c.standpoint e := by
  have held : s.Holds Checked := by
    induction run with
    | start => exact ⟨nofun, nofun⟩
    | call c call _ checks ih => exact ih.checked c checks
  refine ⟨⟨fun row member => (held.1 row member).agrees,
    fun row member => (held.2 row member).agrees⟩, ?_⟩
  intro c id e got
  rw [call_getEvent, run.sound.2.read_eq_ok] at got
  obtain ⟨row, member, same, read⟩ := got
  exact ⟨row, member, same, EventRow.makes_of_ofRow read⟩

/-- A series with a count and an end is split: the old row keeps both in its columns, with the end moved
to the day before, and the new row has the old end in its text. -/
theorem agrees_twiceAFortnight :
    let start : Moment := ⟨⟨2024, 1, 1, by decide⟩, ⟨9, 0, 0, 0, by decide⟩, none⟩
    let finish : Moment := ⟨⟨2024, 1, 1, by decide⟩, ⟨10, 0, 0, 0, by decide⟩, none⟩
    let s := (Store.after {} newYearsEve (.create (some ['a']) start finish twiceAFortnight none)).after
      newYearsEve (.split 1 ⟨2024, 1, 15, by decide⟩ none none none)
    Reaches Call.Checks {} s
      ∧ s.tables.events.map (fun row => (row.ruleText, row.endDate, row.count))
        = [(some "FREQ=WEEKLY;INTERVAL=2;BYDAY=MO,WE;COUNT=5".toList, some "20240114".toList, some 5),
          (some "FREQ=WEEKLY;INTERVAL=2;BYDAY=MO,WE;UNTIL=20240331".toList, some "20240331".toList,
            none)]
      ∧ ∀ row ∈ s.tables.events, row.Agrees newYearsEve.standpoint := by
  intro start finish s
  have run : Reaches Call.Checks {} s := .call _ _ (.call _ _ .start trivial) trivial
  refine ⟨run, ?_, fun row member => (agrees_of_checks run).1.2 row member _⟩
  repeat rw [String.toList_ofList]
  decide +kernel

end Checked

end Store

end Recurrence
