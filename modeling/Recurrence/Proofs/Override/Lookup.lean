import Mathlib.Data.List.Pairwise
import Mathlib.Data.List.Sort
import Recurrence.Proofs.Calendar.Ordinal
import Recurrence.Override.Set

/-! What a set of overrides holds for a day: of the overrides that were put for it, the last. What it
holds for the days determines it. -/

namespace Recurrence

namespace Override

/-- The last override of a list for a day. -/
def lastFor? (os : List Override) (day : Date) : Option Override :=
  (os.filter fun o => decide (o.date = day)).getLast?

theorem find?_insert (o : Override) (xs : List Override) (day : Date) :
    (o.insert xs).find? (fun x => decide (x.date = day))
      = if o.date = day then some o else xs.find? fun x => decide (x.date = day) := by
  induction xs with
  | nil =>
      simp only [Override.insert, List.find?_cons, List.find?_nil]
      by_cases h : o.date = day <;> simp [h]
  | cons x xs ih =>
      simp only [Override.insert]
      split
      · rw [List.find?_cons]
        by_cases h : o.date = day <;> simp [h]
      · rename_i notBefore
        split
        · rename_i after
          rw [List.find?_cons, List.find?_cons, ih]
          by_cases here : x.date = day
          · have other : o.date ≠ day := by
              intro same
              rw [same, here] at after
              exact Nat.lt_irrefl _ after
            simp [here, other]
          · simp [here]
        · rename_i notAfter
          have same : x.date = o.date := by
            rw [Date.lt_iff] at notBefore notAfter
            exact Date.ordinal_inj.mp (by omega)
          rw [List.find?_cons, List.find?_cons, same]
          by_cases h : o.date = day <;> simp [h]

theorem lastFor?_cons (o : Override) (os : List Override) (day : Date) :
    lastFor? (o :: os) day = (lastFor? os day).or (if o.date = day then some o else none) := by
  by_cases h : o.date = day
  · simp only [lastFor?, List.filter_cons, h, decide_true, if_true, List.getLast?_cons]
    cases (os.filter fun o => decide (o.date = day)).getLast? <;> rfl
  · simp only [lastFor?, List.filter_cons, h, decide_false, if_false, Bool.false_eq_true,
      Option.or_none]

theorem mem_of_lastFor? {os : List Override} {day : Date} {o : Override}
    (h : lastFor? os day = some o) : o ∈ os :=
  (List.mem_filter.mp (List.mem_of_getLast? h)).1

end Override

namespace OverrideSet

@[simp] theorem lookup?_put (s : OverrideSet) (o : Override) (day : Date) :
    (s.put o).lookup? day = if o.date = day then some o else s.lookup? day :=
  Override.find?_insert o s.toList day

theorem lookup?_foldl_put (os : List Override) (s : OverrideSet) (day : Date) :
    (os.foldl put s).lookup? day = (Override.lastFor? os day).or (s.lookup? day) := by
  induction os generalizing s with
  | nil => rfl
  | cons o os ih =>
      rw [List.foldl_cons, ih, Override.lastFor?_cons, lookup?_put, Option.or_assoc]
      by_cases h : o.date = day <;> simp [h]

theorem lookup?_ofList (os : List Override) (day : Date) :
    (ofList os).lookup? day = Override.lastFor? os day := by
  rw [ofList, lookup?_foldl_put]
  exact Option.or_none

theorem mem_toList_iff {s : OverrideSet} {o : Override} :
    o ∈ s.toList ↔ s.lookup? o.date = some o := by
  constructor
  · intro member
    cases found : s.toList.find? fun x => decide (x.date = o.date) with
    | none =>
        have absent := List.find?_eq_none.mp found o member
        exact absurd (decide_eq_true rfl) absent
    | some x =>
        have hit := List.find?_some found
        have same := of_decide_eq_true hit
        have distinct : s.toList.Pairwise fun a b => a.date ≠ b.date := by
          apply s.ordered.imp
          rintro a b before equal
          rw [equal] at before
          exact Nat.lt_irrefl _ before
        have : Std.Symm fun a b : Override => a.date ≠ b.date := ⟨fun _ _ => Ne.symm⟩
        by_cases equal : x = o
        · rw [lookup?, found, equal]
        · exact absurd same (distinct.forall (List.mem_of_find?_eq_some found) member equal)
  · exact List.mem_of_find?_eq_some

/-- Sets with the same overrides are the same lists. -/
theorem toList_eq_of_mem_iff {os : List Override} {s : OverrideSet}
    (ordered : os.Pairwise fun a b => a.date < b.date) (h : ∀ o, o ∈ os ↔ o ∈ s.toList) :
    os = s.toList := by
  have : Std.Irrefl fun a b : Override => a.date < b.date := ⟨fun _ => Nat.lt_irrefl _⟩
  have : Std.Antisymm fun a b : Override => a.date < b.date :=
    ⟨fun _ _ before after => absurd after (Nat.lt_asymm before)⟩
  exact ordered.eq_of_mem_iff s.ordered h

theorem mem_put {s : OverrideSet} {o x : Override} :
    x ∈ (s.put o).toList ↔ x = o ∨ x ∈ s.toList ∧ x.date ≠ o.date := by
  rw [mem_toList_iff, lookup?_put, mem_toList_iff]
  by_cases same : o.date = x.date
  · rw [if_pos same, Option.some_inj]
    exact ⟨fun equal => .inl equal.symm, fun either =>
      either.elim Eq.symm fun other => absurd same.symm other.2⟩
  · rw [if_neg same]
    constructor
    · exact fun found => .inr ⟨found, Ne.symm same⟩
    · rintro (rfl | ⟨found, -⟩)
      · exact absurd rfl same
      · exact found

theorem mem_remove {s : OverrideSet} {day : Date} {x : Override} :
    x ∈ (s.remove day).toList ↔ x ∈ s.toList ∧ x.date ≠ day := by
  rw [remove, List.mem_filter, decide_eq_true_iff]

theorem contains_iff {s : OverrideSet} {day : Date} :
    s.contains day = true ↔ ∃ o ∈ s.toList, o.date = day := by
  rw [contains, lookup?, List.find?_isSome]
  simp only [decide_eq_true_iff]

/-- A list with one override a day holds what its set holds. -/
theorem mem_ofList {os : List Override} (distinct : os.Pairwise fun a b => a.date ≠ b.date)
    {o : Override} : o ∈ (ofList os).toList ↔ o ∈ os := by
  rw [mem_toList_iff, lookup?_ofList]
  refine ⟨Override.mem_of_lastFor?, ?_⟩
  intro member
  have here : o ∈ os.filter fun x => decide (x.date = o.date) :=
    List.mem_filter.mpr ⟨member, decide_eq_true rfl⟩
  have apart := distinct.filter fun x => decide (x.date = o.date)
  have dates : ∀ x ∈ os.filter (fun x => decide (x.date = o.date)), x.date = o.date :=
    fun x found => of_decide_eq_true (List.mem_filter.mp found).2
  rw [Override.lastFor?]
  generalize os.filter (fun x => decide (x.date = o.date)) = found at here apart dates
  rcases found with _ | ⟨a, _ | ⟨b, more⟩⟩
  · cases here
  · rw [List.mem_singleton.mp here]
    rfl
  · have other := (List.pairwise_cons.mp apart).1 b List.mem_cons_self
    have first := dates a List.mem_cons_self
    exact absurd (first.trans (dates b (List.mem_cons_of_mem a List.mem_cons_self)).symm) other

end OverrideSet

end Recurrence
