import Recurrence.Fault

/-! Steps that may fail, taken one after the other: they succeed where each of them does. -/

namespace Recurrence

variable {α β : Type} {e : Except Fault α} {f : α → Except Fault β} {g : α → β} {b : β}

theorem ok_bind {ε : Type} (a : α) (f : α → Except ε β) : Except.ok a >>= f = f a := rfl

theorem error_bind {ε : Type} (fault : ε) (f : α → Except ε β) :
    Except.error fault >>= f = .error fault := rfl

theorem bind_eq_ok : e >>= f = .ok b ↔ ∃ a, e = .ok a ∧ f a = .ok b := by
  cases e with
  | error fault => exact ⟨nofun, fun ⟨_, absent, _⟩ => nomatch absent⟩
  | ok a =>
      constructor
      · exact fun h => ⟨a, rfl, h⟩
      · rintro ⟨_, same, h⟩
        cases same
        exact h

theorem map_eq_ok {ε : Type} {e : Except ε α} : e.map g = .ok b ↔ ∃ a, e = .ok a ∧ g a = b := by
  cases e with
  | error fault => exact ⟨nofun, fun ⟨_, absent, _⟩ => nomatch absent⟩
  | ok a =>
      constructor
      · exact fun h => ⟨a, rfl, Except.ok.inj h⟩
      · rintro ⟨_, same, h⟩
        cases same
        exact congrArg Except.ok h

/-- A result under a condition is the result where the condition holds. -/
theorem guarded_eq_ok {p : Prop} [Decidable p] {x a : α} {fault : Fault} :
    (if p then .ok x else .error fault) = Except.ok a ↔ p ∧ x = a := by
  constructor
  · intro h
    split at h
    · rename_i holds
      exact ⟨holds, Except.ok.inj h⟩
    · cases h
  · rintro ⟨holds, rfl⟩
    exact if_pos holds

/-- A step that does not succeed. -/
def Fails (e : Except Fault α) : Prop := ∃ fault, e = .error fault

theorem not_fails_ok (a : α) : ¬ Fails (.ok a) := fun ⟨_, absent⟩ => nomatch absent

theorem exists_of_not_fails (h : ¬ Fails e) : ∃ a, e = .ok a := by
  cases e with
  | error fault => exact absurd ⟨fault, rfl⟩ h
  | ok a => exact ⟨a, rfl⟩

theorem eq_ok_of_toOption {a : α} (h : e.toOption = some a) : e = .ok a := by
  cases e with
  | error fault => cases h
  | ok b => exact congrArg Except.ok (Option.some.inj h)

theorem fails_of_toOption (h : e.toOption = none) : Fails e := by
  cases e with
  | error fault => exact ⟨fault, rfl⟩
  | ok a => cases h

theorem fails_bind : Fails (e >>= f) ↔ Fails e ∨ ∃ a, e = .ok a ∧ Fails (f a) := by
  cases e with
  | error fault => exact ⟨fun _ => .inl ⟨fault, rfl⟩, fun _ => ⟨fault, rfl⟩⟩
  | ok a =>
      constructor
      · exact fun h => .inr ⟨a, rfl, h⟩
      · rintro (absent | ⟨_, same, h⟩)
        · exact absurd absent (not_fails_ok a)
        · cases same
          exact h

theorem fails_map : Fails (e.map g) ↔ Fails e := by
  cases e with
  | error fault => exact ⟨fun _ => ⟨fault, rfl⟩, fun _ => ⟨fault, rfl⟩⟩
  | ok a => exact ⟨fun failed => absurd failed (not_fails_ok _),
      fun failed => absurd failed (not_fails_ok _)⟩

/-- Where each item succeeds, the list of the results is the result for the list. -/
theorem mapM_eq_ok {items : List α} (h : ∀ a ∈ items, f a = .ok (g a)) :
    items.mapM f = .ok (items.map g) := by
  induction items with
  | nil => rfl
  | cons a rest ih =>
      rw [List.mapM_cons, h a List.mem_cons_self, ih fun b later => h b (List.mem_cons_of_mem a later)]
      rfl

theorem mapM_congr {items : List α} {f' : α → Except Fault β} (h : ∀ a ∈ items, f a = f' a) :
    items.mapM f = items.mapM f' := by
  induction items with
  | nil => rfl
  | cons a rest ih =>
      rw [List.mapM_cons, List.mapM_cons, h a List.mem_cons_self,
        ih fun b later => h b (List.mem_cons_of_mem a later)]

/-- A list that succeeds succeeds for each item, with a result that is in the list of the results. -/
theorem exists_mem_of_mapM_eq_ok {items : List α} {bs : List β} (h : items.mapM f = .ok bs) :
    ∀ a ∈ items, ∃ b ∈ bs, f a = .ok b := by
  induction items generalizing bs with
  | nil => exact nofun
  | cons a rest ih =>
      rw [List.mapM_cons] at h
      obtain ⟨b, first, h⟩ := bind_eq_ok.mp h
      obtain ⟨more, later, h⟩ := bind_eq_ok.mp h
      cases h
      intro c member
      rcases List.mem_cons.mp member with rfl | behind
      · exact ⟨b, List.mem_cons_self, first⟩
      · obtain ⟨d, there, made⟩ := ih later c behind
        exact ⟨d, List.mem_cons_of_mem b there, made⟩

theorem exists_of_mapM_eq_ok {items : List α} {bs : List β} (h : items.mapM f = .ok bs) :
    ∀ a ∈ items, ∃ b, f a = .ok b := by
  intro a member
  obtain ⟨b, -, made⟩ := exists_mem_of_mapM_eq_ok h a member
  exact ⟨b, made⟩

/-- A list succeeds where each item does. -/
theorem exists_mapM_iff {items : List α} :
    (∃ bs, items.mapM f = .ok bs) ↔ ∀ a ∈ items, ∃ b, f a = .ok b := by
  refine ⟨fun ⟨_, h⟩ => exists_of_mapM_eq_ok h, ?_⟩
  intro each
  induction items with
  | nil => exact ⟨[], rfl⟩
  | cons a rest ih =>
      obtain ⟨b, first⟩ := each a List.mem_cons_self
      obtain ⟨more, later⟩ := ih fun c behind => each c (List.mem_cons_of_mem a behind)
      refine ⟨b :: more, ?_⟩
      rw [List.mapM_cons, first, later]
      rfl

end Recurrence
