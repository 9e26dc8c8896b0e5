import Recurrence.Proofs.DateText.Ordering
import Recurrence.Proofs.Store.Legible
import Recurrence.Proofs.Store.Storage

/-! Which override counts for a day. A day of a year of two digits is read as one of another year, so
several exceptions of an event may tell of a day; the one whose text comes last does. -/

namespace Recurrence

theorem Override.lastFor?_eq_none_iff {os : List Override} {day : Date} :
    lastFor? os day = none ↔ ∀ o ∈ os, o.date ≠ day := by
  rw [lastFor?, List.getLast?_eq_none_iff, List.filter_eq_nil_iff]
  simp only [decide_eq_true_iff, ne_eq]

namespace ExceptionRow

/-- The row is read as an override of a day. -/
structure Tells (x : ExceptionRow) (here : DateText.Standpoint) (day : Date) (o : Override) :
    Prop where
  read : x.toOverride here = .ok o
  date : o.date = day

/-- Of the rows that tell of a day it is the one whose text comes last. -/
structure TellsLast (rows : List ExceptionRow) (here : DateText.Standpoint) (day : Date)
    (x : ExceptionRow) (o : Override) : Prop where
  member : x ∈ rows
  tells : x.Tells here day o
  last : ∀ y ∈ rows, ∀ o', y.Tells here day o' → y.date.notAfter x.date = true

variable {rows rows' : List ExceptionRow} {x y z : ExceptionRow} {here : DateText.Standpoint}
  {day : Date} {o o' : Override}

theorem Tells.day? (h : x.Tells here day o) : DateText.day? here x.date = .ok (some day) :=
  (day?_of_toOverride h.read).trans (congrArg (fun d => Except.ok (some d)) h.date)

theorem TellsLast.of_alike
    (alike : ∀ x : ExceptionRow, (∃ o, x.Tells here day o) → (x ∈ rows ↔ x ∈ rows'))
    (h : TellsLast rows here day x o) : TellsLast rows' here day x o where
  member := (alike x ⟨o, h.tells⟩).mp h.member
  tells := h.tells
  last := fun y there o' tells => h.last y ((alike y ⟨o', tells⟩).mpr there) o' tells

/-- The first of the rows in their order does not count where a later one tells of the day. -/
theorem tellsLast_cons_of_later (before : ∀ a ∈ rows, x.date.notAfter a.date = true)
    (apart : ∀ a ∈ rows, x.date ≠ a.date) (later : TellsLast rows here day y o') :
    TellsLast (x :: rows) here day z o ↔ TellsLast rows here day z o := by
  constructor
  · rintro ⟨member, tells, last⟩
    have last' : ∀ a ∈ rows, ∀ o', a.Tells here day o' → a.date.notAfter z.date = true :=
      fun a there => last a (List.mem_cons_of_mem x there)
    rcases List.mem_cons.mp member with rfl | behind
    · have same := Text.notAfter_antisymm (before y later.member)
        (last' y later.member o' later.tells)
      exact absurd same (apart y later.member)
    · exact ⟨behind, tells, last'⟩
  · rintro ⟨member, tells, last⟩
    refine ⟨List.mem_cons_of_mem x member, tells, ?_⟩
    intro a there o' tells'
    rcases List.mem_cons.mp there with rfl | behind
    · exact before z member
    · exact last a behind o' tells'

theorem tellsLast_cons_of_alone (alone : ∀ a ∈ rows, ∀ o', ¬ a.Tells here day o') :
    TellsLast (x :: rows) here day z o ↔ z = x ∧ x.Tells here day o := by
  constructor
  · rintro ⟨member, tells, -⟩
    rcases List.mem_cons.mp member with rfl | behind
    · exact ⟨rfl, tells⟩
    · exact absurd tells (alone z behind o)
  · rintro ⟨rfl, tells⟩
    refine ⟨List.mem_cons_self, tells, ?_⟩
    intro a there o' tells'
    rcases List.mem_cons.mp there with rfl | behind
    · exact Text.notAfter_refl a.date
    · exact absurd tells' (alone a behind o')

end ExceptionRow

open ExceptionRow (TellsLast)

variable {here : DateText.Standpoint} {day : Date} {id : Int} {os os' : List Override}

/-- Of rows in the order of their texts the last that tells of a day counts for it. -/
theorem Override.lastFor?_of_sorted {rows : List ExceptionRow} {o : Override}
    (sorted : rows.Pairwise fun x y => x.date.notAfter y.date = true)
    (distinct : rows.Pairwise fun x y => x.date ≠ y.date)
    (read : rows.mapM (ExceptionRow.toOverride here) = .ok os) :
    lastFor? os day = some o ↔ ∃ x, TellsLast rows here day x o := by
  induction rows generalizing os o with
  | nil =>
      cases read
      exact ⟨nofun, fun ⟨_, counts⟩ => absurd counts.member List.not_mem_nil⟩
  | cons x rest ih =>
      obtain ⟨before, sorted⟩ := List.pairwise_cons.mp sorted
      obtain ⟨apart, distinct⟩ := List.pairwise_cons.mp distinct
      rw [List.mapM_cons] at read
      obtain ⟨first, atFirst, read⟩ := bind_eq_ok.mp read
      obtain ⟨more, later, read⟩ := bind_eq_ok.mp read
      cases read
      have behind : ∀ last, lastFor? more day = some last ↔ _ := fun _ => ih sorted distinct later
      rw [lastFor?_cons]
      cases found : lastFor? more day with
      | some last =>
          obtain ⟨y, tellsLast⟩ := (behind last).mp found
          rw [Option.some_or, ← found, behind]
          exact exists_congr fun z => (ExceptionRow.tellsLast_cons_of_later before apart tellsLast).symm
      | none =>
          have alone : ∀ y ∈ rest, ∀ o', ¬ y.Tells here day o' := by
            rintro y there o' ⟨told, date⟩
            obtain ⟨_, listed, same⟩ := exists_mem_of_mapM_eq_ok later y there
            cases told.symm.trans same
            exact lastFor?_eq_none_iff.mp found o' listed date
          simp only [Option.none_or, ExceptionRow.tellsLast_cons_of_alone alone, exists_eq_left,
            Option.ite_none_right_eq_some, Option.some.injEq]
          constructor
          · rintro ⟨date, rfl⟩
            exact ⟨atFirst, date⟩
          · rintro ⟨told, date⟩
            cases atFirst.symm.trans told
            exact ⟨date, rfl⟩

namespace Tables

variable {t t' : Tables}

theorem exceptionsOf_sorted (t : Tables) (id : Int) :
    (t.exceptionsOf id).Pairwise fun x y => x.date.notAfter y.date = true := by
  apply List.pairwise_mergeSort
  · exact fun _ _ _ => Text.notAfter_trans
  · exact fun x y => Text.notAfter_total x.date y.date

/-- Of the exceptions of an event that tell of a day the one whose text comes last counts for it. -/
theorem Sound.lastFor?_eq_some_iff {o : Override} (sound : t.Sound)
    (read : t.overrides here id = .ok os) :
    Override.lastFor? os day = some o ↔ ∃ x, TellsLast (t.exceptionsOf id) here day x o := by
  obtain ⟨_, same, read⟩ := bind_eq_ok.mp read
  obtain ⟨-, rfl⟩ := storedInteger_eq_ok.mp same
  exact Override.lastFor?_of_sorted (t.exceptionsOf_sorted id) sound.exceptionsOf_distinct read

/-- Where the exceptions that tell of a day are the same, the same one counts. -/
theorem Sound.lastFor?_congr (sound : t.Sound) (sound' : t'.Sound)
    (read : t.overrides here id = .ok os) (read' : t'.overrides here id = .ok os')
    (alike : ∀ x : ExceptionRow, x.parent = id → (∃ o, x.Tells here day o) →
      (x ∈ t'.exceptions ↔ x ∈ t.exceptions)) :
    Override.lastFor? os' day = Override.lastFor? os day := by
  have rows : ∀ x : ExceptionRow, (∃ o, x.Tells here day o) →
      (x ∈ t'.exceptionsOf id ↔ x ∈ t.exceptionsOf id) := by
    intro x tells
    rw [Stores.mem_exceptionsOf, Stores.mem_exceptionsOf]
    exact and_congr_left fun owned => alike x owned tells
  apply Option.ext
  intro o
  rw [sound.lastFor?_eq_some_iff read, sound'.lastFor?_eq_some_iff read']
  exact exists_congr fun x => ⟨.of_alike rows, .of_alike fun y tells => (rows y tells).symm⟩

end Tables

end Recurrence
