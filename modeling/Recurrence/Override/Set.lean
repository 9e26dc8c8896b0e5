import Recurrence.Override.Basic

/-! The overrides of a series, at most one a day, in the order of their days. Putting an override
replaces the one of its day. -/

namespace Recurrence

/-- Puts an override among overrides in date order. -/
def Override.insert (o : Override) : List Override → List Override
  | [] => [o]
  | x :: xs =>
    if o.date < x.date then o :: x :: xs
    else if x.date < o.date then x :: o.insert xs
    else o :: xs

namespace Override

theorem mem_insert {o x : Override} {xs : List Override} (h : x ∈ o.insert xs) :
    x = o ∨ x ∈ xs := by
  induction xs with
  | nil => simpa [Override.insert] using h
  | cons y ys ih =>
    simp only [Override.insert] at h
    split at h
    · simpa using h
    · split at h
      · rcases List.mem_cons.1 h with h | h
        · exact .inr (h ▸ List.mem_cons_self ..)
        · exact (ih h).imp id (List.mem_cons_of_mem y)
      · rcases List.mem_cons.1 h with h | h
        · exact .inl h
        · exact .inr (List.mem_cons_of_mem y h)

theorem pairwise_insert (o : Override) {xs : List Override}
    (h : xs.Pairwise fun a b => a.date < b.date) :
    (o.insert xs).Pairwise fun a b => a.date < b.date := by
  induction xs with
  | nil => simp [Override.insert]
  | cons x xs ih =>
    obtain ⟨head, tail⟩ := List.pairwise_cons.1 h
    simp only [Override.insert]
    split
    · rename_i before
      refine List.pairwise_cons.2 ⟨fun y hy => ?_, h⟩
      rcases List.mem_cons.1 hy with rfl | hy
      · exact before
      · exact Nat.lt_trans before (head y hy)
    · split
      · rename_i after
        refine List.pairwise_cons.2 ⟨fun y hy => ?_, ih tail⟩
        rcases mem_insert hy with rfl | hy
        · exact after
        · exact head y hy
      · rename_i _ notAfter
        refine List.pairwise_cons.2 ⟨fun y hy => ?_, tail⟩
        exact Nat.lt_of_le_of_lt (Nat.le_of_not_lt notAfter) (head y hy)

end Override

structure OverrideSet where
  toList : List Override
  ordered : toList.Pairwise fun a b => a.date < b.date

namespace OverrideSet

def empty : OverrideSet := ⟨[], .nil⟩

/-- Creates or replaces the override of a day. -/
def put (s : OverrideSet) (o : Override) : OverrideSet :=
  ⟨o.insert s.toList, Override.pairwise_insert o s.ordered⟩

/-- Leaves a day without an override. -/
def remove (s : OverrideSet) (day : Date) : OverrideSet :=
  ⟨s.toList.filter fun o => decide (o.date ≠ day), s.ordered.filter _⟩

/-- The overrides of a list; of several for one day the last holds. -/
def ofList (os : List Override) : OverrideSet := os.foldl put empty

def lookup? (s : OverrideSet) (day : Date) : Option Override :=
  s.toList.find? fun o => decide (o.date = day)

def state? (s : OverrideSet) (day : Date) : Option OverrideKind := (s.lookup? day).map (·.kind)

def contains (s : OverrideSet) (day : Date) : Bool := (s.lookup? day).isSome

def size (s : OverrideSet) : Nat := s.toList.length

end OverrideSet

/-- The versions of a set, the oldest first; every change appends one. -/
structure OverrideHistory where
  versions : List OverrideSet

namespace OverrideHistory

def start (s : OverrideSet) : OverrideHistory := ⟨[s]⟩

/-- A version by its number; negative numbers count from the end. -/
def version (h : OverrideHistory) (number : Int) : Except Fault OverrideSet :=
  let place := if number < 0 then number + h.versions.length else number
  if place < 0 then .error .noSuchVersion
  else
    match h.versions[place.toNat]? with
    | some s => .ok s
    | none => .error .noSuchVersion

def append (h : OverrideHistory) (s : OverrideSet) : OverrideHistory := ⟨h.versions ++ [s]⟩

end OverrideHistory

end Recurrence
