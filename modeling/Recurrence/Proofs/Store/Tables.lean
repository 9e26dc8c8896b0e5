import Recurrence.Proofs.Fault
import Recurrence.Store.Tables

/-! What operations on the tables leave where they succeed. -/

namespace Recurrence

theorem storedInteger_eq_ok {n m : Int} : storedInteger n = .ok m ↔ fitsWord n = true ∧ n = m :=
  guarded_eq_ok

theorem storedInteger?_eq_ok {n m : Option Int} :
    storedInteger? n = .ok m ↔ n.all fitsWord = true ∧ n = m := by
  cases n with
  | none => exact ⟨fun same => ⟨rfl, Except.ok.inj same⟩, fun both => congrArg Except.ok both.2⟩
  | some n =>
      rw [storedInteger?, Option.all_some, map_eq_ok]
      constructor
      · rintro ⟨_, given, rfl⟩
        obtain ⟨fits, rfl⟩ := storedInteger_eq_ok.mp given
        exact ⟨fits, rfl⟩
      · rintro ⟨fits, rfl⟩
        exact ⟨n, storedInteger_eq_ok.mpr ⟨fits, rfl⟩, rfl⟩

theorem nextId_eq_ok {last id : Int} :
    nextId last = .ok id ↔ fitsWord (last + 1) = true ∧ last + 1 = id :=
  guarded_eq_ok

namespace Tables

variable {t t' : Tables} {id : Int}

theorem hasEvent_iff : t.hasEvent id = true ↔ ∃ e ∈ t.events, e.id = id := by
  rw [hasEvent, event?, List.find?_isSome]
  simp only [beq_iff_eq]

theorem hasEvent_eq_false_iff : t.hasEvent id = false ↔ ∀ e ∈ t.events, e.id ≠ id := by
  rw [Bool.eq_false_iff, ne_eq, hasEvent_iff]
  exact ⟨fun none e member same => none ⟨e, member, same⟩, fun other ⟨e, member, same⟩ =>
    other e member same⟩

theorem event?_eq_some {e : EventRow} (h : t.event? id = some e) : e ∈ t.events ∧ e.id = id := by
  unfold event? at h
  have same := List.find?_some h
  exact ⟨List.mem_of_find?_eq_some h, beq_iff_eq.mp same⟩

@[simp] theorem lastEvent_updateEvent (t : Tables) (id : Int) (change : EventRow → EventRow) :
    (t.updateEvent id change).lastEvent = t.lastEvent := rfl

theorem insertEvent_eq_ok {row : Int → Except Fault EventRow}
    (h : t.insertEvent row = .ok (t', id)) :
    fitsWord id = true ∧ id = t.lastEvent + 1
      ∧ ∃ e, row id = .ok e ∧ t' = { t with events := t.events ++ [e], lastEvent := id } := by
  unfold insertEvent at h
  obtain ⟨new, next, h⟩ := bind_eq_ok.mp h
  obtain ⟨fits, rfl⟩ := nextId_eq_ok.mp next
  obtain ⟨e, made, h⟩ := bind_eq_ok.mp h
  split at h
  · cases h
    exact ⟨fits, rfl, e, made, rfl⟩
  · cases h

/-- An event without a parent is added while ids are left. -/
theorem insertEvent_of_free {row : Int → Except Fault EventRow} {e : EventRow}
    (free : fitsWord (t.lastEvent + 1) = true) (made : row (t.lastEvent + 1) = .ok e)
    (alone : e.parent = none) :
    t.insertEvent row
      = .ok ({ t with events := t.events ++ [e], lastEvent := t.lastEvent + 1 }, t.lastEvent + 1) := by
  have next : nextId t.lastEvent = .ok (t.lastEvent + 1) := nextId_eq_ok.mpr ⟨free, rfl⟩
  rw [insertEvent, next, ok_bind, made, ok_bind, alone]
  exact if_pos rfl

theorem putException_eq_ok {parent : Int} {date : Text} {kind : OverrideKind}
    {replacement : Option Int} (h : t.putException parent date kind replacement = .ok t') :
    t.hasEvent parent = true
      ∧ t'.events = t.events ∧ t'.lastEvent = t.lastEvent
      ∧ (t'.exceptions = t.exceptions.map (fun x =>
            if x.parent == parent && x.date == date then { x with kind, replacement } else x)
          ∨ t.exceptionOn? parent date = none
            ∧ t'.exceptions
              = t.exceptions ++ [⟨t.lastException + 1, parent, date, kind, replacement⟩]) := by
  unfold putException at h
  obtain ⟨new, next, h⟩ := bind_eq_ok.mp h
  obtain ⟨-, rfl⟩ := nextId_eq_ok.mp next
  split at h
  · cases h
  · rename_i there
    have event : t.hasEvent parent = true := by
      rw [Bool.not_eq_true', Bool.not_eq_false] at there
      exact there
    split at h
    · cases h
      exact ⟨event, rfl, rfl, .inl rfl⟩
    · rename_i free
      cases h
      exact ⟨event, rfl, rfl, .inr ⟨Option.not_isSome_iff_eq_none.mp free, rfl⟩⟩

end Tables

end Recurrence
