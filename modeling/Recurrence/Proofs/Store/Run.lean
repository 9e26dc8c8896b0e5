import Recurrence.Store.Basic

/-! Running actions on a store: what is left of a store by each small action and by one action
after another, and properties of the tables that actions keep whether they succeed or fail. -/

namespace Recurrence.Store

variable {α β : Type}

/-- The answer or the fault of an action on a store, and the store it leaves. -/
def call (s : Store) (a : StoreAction α) : Except Fault α × Store := (ExceptT.run a).run s

section Steps

variable (s : Store)

theorem call_lift (x : Except Fault α) : s.call (liftM x) = (x, s) := by
  cases x <;> rfl

theorem call_bind (a : StoreAction α) (f : α → StoreAction β) :
    s.call (a >>= f)
      = match s.call a with
        | (.ok x, after) => after.call (f x)
        | (.error fault, after) => (.error fault, after) := by
  change (match s.call a with
    | (x, after) => (ExceptT.bindCont f x).run after) = _
  rcases s.call a with ⟨x, after⟩
  cases x <;> rfl

theorem call_tablesNow : s.call tablesNow = (.ok s.tables, s) := rfl

end Steps

theorem call_bind_ok {s after : Store} {a : StoreAction α} {x : α} (f : α → StoreAction β)
    (h : s.call a = (.ok x, after)) : s.call (a >>= f) = after.call (f x) := by
  rw [call_bind, h]

theorem call_bind_error {s after : Store} {a : StoreAction α} {fault : Fault}
    (f : α → StoreAction β) (h : s.call a = (.error fault, after)) :
    s.call (a >>= f) = (.error fault, after) := by
  rw [call_bind, h]

theorem call_bind_eq_ok {s after : Store} {a : StoreAction α} {f : α → StoreAction β} {y : β}
    (h : s.call (a >>= f) = (.ok y, after)) :
    ∃ x between, s.call a = (.ok x, between) ∧ between.call (f x) = (.ok y, after) := by
  rw [call_bind] at h
  rcases first : s.call a with ⟨fault | x, between⟩
  · rw [first] at h
    cases h
  · rw [first] at h
    exact ⟨x, between, rfl, h⟩

/-- A property of the tables as they are and as they were last committed. -/
def Holds (P : Tables → Prop) (s : Store) : Prop := P s.committed ∧ P s.tables

/-- The tables that are left have a property, and so has what was committed on the way. -/
structure Follows (P : Tables → Prop) (s after : Store) : Prop where
  tables : P after.tables
  committed : after.committed = s.committed ∨ P after.committed

section Follows

variable {P : Tables → Prop} {s between after : Store}

theorem Follows.refl (h : P s.tables) : Follows P s s := ⟨h, .inl rfl⟩

theorem Follows.trans (first : Follows P s between) (second : Follows P between after) :
    Follows P s after where
  tables := second.tables
  committed := by
    rcases second.committed with same | new
    · rw [same]
      exact first.committed
    · exact .inr new

theorem Follows.holds (h : Follows P s after) (held : s.Holds P) : after.Holds P := by
  refine ⟨?_, h.tables⟩
  rcases h.committed with same | new
  · exact same ▸ held.1
  · exact new

end Follows

/-- A property of the tables that an action never ends. -/
def Keeps (P : Tables → Prop) (a : StoreAction α) : Prop :=
  ∀ s : Store, P s.tables → Follows P s (s.call a).2

section Keeps

variable {P : Tables → Prop}

theorem keeps_pure (x : α) : Keeps P (pure x : StoreAction α) := fun _ h => .refl h

theorem keeps_throw (fault : Fault) : Keeps P (throw fault : StoreAction α) := fun _ h => .refl h

theorem keeps_lift (x : Except Fault α) : Keeps P (liftM x : StoreAction α) := by
  intro s h
  rw [call_lift]
  exact .refl h

theorem keeps_bind {a : StoreAction α} {f : α → StoreAction β} (first : Keeps P a)
    (second : ∀ x, Keeps P (f x)) : Keeps P (a >>= f) := by
  intro s h
  have between := first s h
  cases run : s.call a with
  | mk x after =>
      rw [run] at between
      cases x with
      | error fault =>
          rw [call_bind_error f run]
          exact between
      | ok x =>
          rw [call_bind_ok f run]
          exact between.trans (second x after between.tables)

/-- What is done with a value may rest on where the value comes from. -/
theorem keeps_lift_bind {e : Except Fault α} {f : α → StoreAction β}
    (h : ∀ x, e = .ok x → Keeps P (f x)) : Keeps P (liftM e >>= f) := by
  intro s held
  cases e with
  | error fault =>
      rw [call_bind_error f (call_lift s _)]
      exact .refl held
  | ok x =>
      rw [call_bind_ok f (call_lift s _)]
      exact h x rfl s held

/-- What is done with the tables as they are may rest on what holds of them. -/
theorem keeps_tablesNow {f : Tables → StoreAction β} (h : ∀ t, P t → Keeps P (f t)) :
    Keeps P (tablesNow >>= f) := by
  intro s held
  rw [call_bind_ok f (call_tablesNow s)]
  exact h s.tables held s held

theorem keeps_setTables {t : Tables} (h : P t) : Keeps P (setTables t) := fun _ _ => ⟨h, .inl rfl⟩

theorem keeps_commit : Keeps P commit := fun _ held => ⟨held, .inr held⟩

theorem keeps_note (c : Conditions) (caller message : Text) : Keeps P (note c caller message) :=
  fun _ held => ⟨held, .inl rfl⟩

end Keeps

end Recurrence.Store
