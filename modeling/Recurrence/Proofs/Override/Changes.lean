import Mathlib.Data.Set.Card
import Recurrence.Proofs.Override.Lookup

/-! Changes of a set of overrides. After any changes the set is a map from days to overrides in which
the last word on a day holds: its answers, its number and its order of days are told by the list it
began with and the changes alone. -/

namespace Recurrence.OverrideSet

/-- A change of a set. The day to be left without an override may be told by a moment of it. -/
inductive Change
  | put (o : Override)
  | remove (day : Stamp)

namespace Change

def day : Change → Date
  | put o => o.date
  | remove day => day.date

/-- The override that a change leaves on its day. -/
def left? : Change → Option Override
  | put o => some o
  | remove _ => none

end Change

def after (s : OverrideSet) : Change → OverrideSet
  | .put o => s.put o
  | .remove day => s.remove day.date

/-- What is held for a day: what the last change of it left there, and without a change the last of the
overrides that were listed for it. -/
def held? (os : List Override) (changes : List Change) (day : Date) : Option Override :=
  match (changes.filter fun c => decide (c.day = day)).getLast? with
  | some c => c.left?
  | none => Override.lastFor? os day

/-- A set gives every answer that a map from days to overrides gives. It is asked with days or with
moments of them. -/
structure IsMap (s : OverrideSet) (held : Date → Option Override) : Prop where
  lookup : ∀ e : Stamp, s.lookup? e.date = held e.date
  state : ∀ e : Stamp, s.state? e.date = (held e.date).map (·.kind)
  contains : ∀ e : Stamp, s.contains e.date = (held e.date).isSome
  size : s.size = Set.ncard {day | (held day).isSome}
  listed : ∀ o, o ∈ s.toList ↔ ∃ day, held day = some o
  ordered : s.toList.Pairwise fun a b => a.date < b.date

variable {s t : OverrideSet} {o : Override} {day : Date} {held : Date → Option Override} {c d : Change}

@[simp] theorem lookup?_remove (s : OverrideSet) (gone day : Date) :
    (s.remove gone).lookup? day = if gone = day then none else s.lookup? day := by
  rw [lookup?, lookup?, remove, List.find?_filter]
  by_cases here : gone = day
  · subst here
    rw [if_pos rfl]
    apply List.find?_eq_none.mpr
    intro o _ both
    obtain ⟨other, same⟩ := of_decide_eq_true both
    exact of_decide_eq_true other (of_decide_eq_true same)
  · rw [if_neg here]
    congr 1
    funext o
    by_cases same : o.date = day
    · have other : day ≠ gone := Ne.symm here
      simp [same, other]
    · simp [same]

theorem lookup?_after (s : OverrideSet) (c : Change) (day : Date) :
    (s.after c).lookup? day = if c.day = day then c.left? else s.lookup? day := by
  cases c with
  | put o => exact lookup?_put s o day
  | remove gone => exact lookup?_remove s gone.date day

theorem date_of_lookup? (found : s.lookup? day = some o) : o.date = day := by
  have hit := List.find?_some found
  exact of_decide_eq_true hit

theorem eq_of_mem_iff (same : ∀ o, o ∈ s.toList ↔ o ∈ t.toList) : s = t := by
  have list := toList_eq_of_mem_iff s.ordered same
  cases s
  cases t
  cases list
  rfl

/-- What a set holds for the days is all there is to it. -/
theorem eq_of_lookup? (same : ∀ day, s.lookup? day = t.lookup? day) : s = t := by
  apply eq_of_mem_iff
  intro o
  rw [mem_toList_iff, mem_toList_iff, same]

/-- Changes of different days may change places. -/
theorem after_comm (apart : c.day ≠ d.day) : (s.after c).after d = (s.after d).after c := by
  apply eq_of_lookup?
  intro day
  rw [lookup?_after, lookup?_after, lookup?_after, lookup?_after]
  by_cases first : c.day = day
  · have second : d.day ≠ day := fun same => apart (first.trans same.symm)
    rw [if_pos first, if_neg second, if_pos first]
  · rw [if_neg first, if_neg first]

theorem held?_append (os : List Override) (changes : List Change) (c : Change) (day : Date) :
    held? os (changes ++ [c]) day = if c.day = day then c.left? else held? os changes day := by
  by_cases here : c.day = day
  · rw [held?, List.filter_append, List.filter_singleton, decide_eq_true here, if_pos here]
    simp
  · rw [held?, List.filter_append, List.filter_singleton, decide_eq_false here, if_neg here]
    simp [held?]

/-- The last word on a day holds, after every change. -/
theorem lookup?_foldl_after (os : List Override) (changes : List Change) (day : Date) :
    (changes.foldl after (ofList os)).lookup? day = held? os changes day := by
  induction changes using List.reverseRecOn with
  | nil => exact lookup?_ofList os day
  | append_singleton changes c ih =>
      rw [List.foldl_append, List.foldl_cons, List.foldl_nil, lookup?_after, held?_append, ih]

theorem dates_nodup (s : OverrideSet) : (s.toList.map (·.date)).Nodup := by
  apply List.pairwise_map.mpr
  apply s.ordered.imp
  intro a b before same
  rw [same] at before
  exact Nat.lt_irrefl _ before

/-- The number of a set is the number of the days it holds something for. -/
theorem size_eq_ncard (s : OverrideSet) : s.size = Set.ncard {day | (s.lookup? day).isSome} := by
  have days : {day | (s.lookup? day).isSome} = ↑(s.toList.map (·.date)).toFinset := by
    ext day
    rw [Set.mem_ofPred_eq, List.coe_toFinset, Set.mem_ofPred_eq, List.mem_map]
    exact contains_iff
  rw [days, Set.ncard_coe_finset, List.toFinset_card_of_nodup s.dates_nodup, List.length_map, size]

theorem isMap_of_lookup? (same : ∀ day, s.lookup? day = held day) : s.IsMap held where
  lookup e := same e.date
  state e := congrArg (Option.map _) (same e.date)
  contains e := congrArg Option.isSome (same e.date)
  size := by
    rw [size_eq_ncard]
    simp only [same]
  listed o := by
    rw [mem_toList_iff]
    constructor
    · intro found
      exact ⟨o.date, same o.date ▸ found⟩
    · rintro ⟨day, found⟩
      rw [← same] at found
      rw [date_of_lookup? found]
      exact found
  ordered := s.ordered

/-- A set that is built from its own overrides is the same set. -/
theorem ofList_toList (s : OverrideSet) : ofList s.toList = s :=
  eq_of_mem_iff fun _ => mem_ofList (List.pairwise_map.mp s.dates_nodup)

/-- Whatever list a set is made from and whatever changes follow, it is the map that the last word on
each day tells, and so is the set made from what it lists. Changes of different days may change places. -/
theorem isMap_afterChanges (os : List Override) (changes : List Change) :
    let s := changes.foldl after (ofList os)
    s.IsMap (held? os changes) ∧ (ofList s.toList).IsMap (held? os changes)
      ∧ ∀ c d : Change, c.day ≠ d.day → (s.after c).after d = (s.after d).after c := by
  intro s
  have map : s.IsMap (held? os changes) := isMap_of_lookup? (lookup?_foldl_after os changes)
  refine ⟨map, ?_, fun c d apart => after_comm apart⟩
  rw [ofList_toList]
  exact map

/-- The third day is listed twice, the fifth is given back by a moment of it, and the second comes in. -/
theorem isMap_afterChanges_january :
    let second : Override := ⟨⟨2024, 1, 2, by decide⟩, .modified, some ['9']⟩
    let moved : Override := ⟨⟨2024, 1, 3, by decide⟩, .moved, some ['7']⟩
    let cancelled : Override := ⟨⟨2024, 1, 3, by decide⟩, .cancelled, none⟩
    let fifth : Override := ⟨⟨2024, 1, 5, by decide⟩, .modified, some ['8']⟩
    let nine : TimeOfDay := ⟨9, 0, 0, 0, by decide⟩
    let changes : List Change := [.remove (.moment ⟨fifth.date, nine, none⟩), .put second]
    let s := changes.foldl after (ofList [moved, fifth, cancelled])
    let gone : Change := .remove (.day cancelled.date)
    s.toList = [second, cancelled] ∧ s.IsMap (held? [moved, fifth, cancelled] changes)
      ∧ gone.day ≠ (Change.put fifth).day
      ∧ (s.after gone).after (.put fifth) = (s.after (.put fifth)).after gone := by
  intro second moved cancelled fifth nine changes s gone
  obtain ⟨map, -, commute⟩ := isMap_afterChanges [moved, fifth, cancelled] changes
  have apart : gone.day ≠ (Change.put fifth).day := by decide
  have listed : s.toList = [second, cancelled] := by decide
  exact ⟨listed, map, apart, commute gone (.put fifth) apart⟩

end Recurrence.OverrideSet
