import Recurrence.Proofs.Store.Dropping
import Recurrence.Proofs.Text.Numeral

/-! Putting an exception on a day: what it changes, and when it fails. -/

namespace Recurrence

theorem fitsWord_next {n : Int} (counted : 0 ≤ n) (free : n + 1 < wordLimit) :
    fitsWord (n + 1) = true := by
  rw [fitsWord, Bool.and_eq_true, decide_eq_true_iff, decide_eq_true_iff]
  omega

/-- The stand-in of an override has an id that is no integer of 64 bits. -/
def Override.Unstorable (o : Override) : Prop :=
  ∃ text, o.replacement = some text ∧ ∀ n, Integer.read text = .ok n → fitsWord n = false

theorem fails_storedInteger {n : Int} : Fails (storedInteger n) ↔ fitsWord n = false := by
  unfold storedInteger
  by_cases fits : fitsWord n = true
  · rw [if_pos fits, fits]
    exact ⟨fun failed => absurd failed (not_fails_ok n), nofun⟩
  · rw [if_neg fits]
    exact ⟨fun _ => Bool.eq_false_iff.mpr fits, fun _ => ⟨_, rfl⟩⟩

theorem Override.unstorable_iff {o : Override} :
    o.Unstorable ↔ Fails (o.standIn >>= storedInteger?) := by
  unfold Unstorable standIn
  cases o.replacement with
  | none => exact ⟨fun ⟨_, absent, _⟩ => (nomatch absent), fun failed => absurd failed (not_fails_ok _)⟩
  | some text =>
      dsimp only
      cases told : Integer.read text with
      | error fault =>
          refine ⟨fun _ => ⟨fault, rfl⟩, fun _ => ⟨text, rfl, ?_⟩⟩
          intro n readable
          cases told.symm.trans readable
      | ok n =>
          change _ ↔ Fails ((storedInteger n).map some)
          rw [fails_map, fails_storedInteger]
          constructor
          · rintro ⟨_, same, beyond⟩
            cases same
            exact beyond n told
          · intro wide
            refine ⟨text, rfl, ?_⟩
            intro m readable
            cases told.symm.trans readable
            exact wide

namespace Tables

variable {t t' : Tables} {id : Int} {standIn : Option Int} {o : Override}

/-- The exceptions after one was put on a day: it, and the others as they were. -/
structure PutsException (t : Tables) (parent : Int) (date : Text) (kind : OverrideKind)
    (replacement : Option Int) (t' : Tables) : Prop where
  last : t'.lastException = t.lastException + 1
  kept : ∀ x ∈ t.exceptions, ¬(x.parent = parent ∧ x.date = date) → x ∈ t'.exceptions
  one : ∃ y ∈ t'.exceptions, y.parent = parent ∧ y.date = date ∧ y.kind = kind
    ∧ y.replacement = replacement
  only : ∀ y ∈ t'.exceptions, y ∈ t.exceptions ∧ ¬(y.parent = parent ∧ y.date = date)
    ∨ y.parent = parent ∧ y.date = date ∧ y.kind = kind ∧ y.replacement = replacement

theorem putsException {parent : Int} {date : Text} {kind : OverrideKind} {replacement : Option Int}
    (h : t.putException parent date kind replacement = .ok t') :
    t.PutsException parent date kind replacement t' := by
  have hit : ∀ x : ExceptionRow, (x.parent == parent && x.date == date) = true
      ↔ x.parent = parent ∧ x.date = date := by
    intro x
    rw [Bool.and_eq_true, beq_iff_eq, beq_iff_eq]
  unfold putException at h
  obtain ⟨new, next, h⟩ := bind_eq_ok.mp h
  obtain ⟨-, rfl⟩ := nextId_eq_ok.mp next
  split at h
  · cases h
  · split at h
    · rename_i found
      cases h
      refine ⟨rfl, ?_, ?_, ?_⟩
      · intro x member apart
        refine List.mem_map.mpr ⟨x, member, ?_⟩
        rw [if_neg (mt (hit x).mp apart)]
      · obtain ⟨x, here⟩ := Option.isSome_iff_exists.mp found
        have key := List.find?_some here
        refine ⟨{ x with kind, replacement }, List.mem_map.mpr ⟨x, List.mem_of_find?_eq_some here, ?_⟩,
          ((hit x).mp key).1, ((hit x).mp key).2, rfl, rfl⟩
        rw [if_pos key]
      · intro y member
        obtain ⟨x, old, rfl⟩ := List.mem_map.mp member
        by_cases key : (x.parent == parent && x.date == date) = true
        · rw [if_pos key]
          exact .inr ⟨((hit x).mp key).1, ((hit x).mp key).2, rfl, rfl⟩
        · rw [if_neg key]
          exact .inl ⟨old, mt (hit x).mpr key⟩
    · rename_i free
      cases h
      refine ⟨rfl, fun x member _ => List.mem_append_left _ member, ?_, ?_⟩
      · exact ⟨_, List.mem_append_right _ List.mem_cons_self, rfl, rfl, rfl, rfl⟩
      · intro y member
        rcases List.mem_append.mp member with old | new
        · have absent := List.find?_eq_none.mp (Option.not_isSome_iff_eq_none.mp free) y old
          exact .inl ⟨old, mt (hit y).mpr absent⟩
        · rw [List.mem_singleton.mp new]
          exact .inr ⟨rfl, rfl, rfl, rfl⟩

theorem lastException_put {o : Override} {u : Unit} (h : t.put id o = .ok (t', u)) :
    t'.lastException = t.lastException + 1 := by
  obtain ⟨_, -, h⟩ := bind_eq_ok.mp h
  obtain ⟨_, -, h⟩ := bind_eq_ok.mp h
  obtain ⟨_, written, left⟩ := map_eq_ok.mp h
  cases left
  exact (putsException written).last

theorem fails_putException {date : Text} {kind : OverrideKind} {replacement : Option Int} :
    Fails (t.putException id date kind replacement)
      ↔ fitsWord (t.lastException + 1) = false ∨ t.hasEvent id = false := by
  unfold putException nextId
  by_cases free : fitsWord (t.lastException + 1) = true
  · rw [if_pos free, ok_bind]
    cases there : t.hasEvent id with
    | false => exact ⟨fun _ => .inr rfl, fun _ => ⟨_, rfl⟩⟩
    | true =>
        simp only [Bool.not_true, Bool.false_eq_true, if_false]
        constructor
        · split
          · exact fun failed => absurd failed (not_fails_ok _)
          · exact fun failed => absurd failed (not_fails_ok _)
        · rintro (full | absent)
          · rw [free] at full
            cases full
          · cases absent
  · rw [if_neg free]
    exact ⟨fun _ => .inl (Bool.eq_false_iff.mpr free), fun _ => ⟨_, rfl⟩⟩

theorem fails_put :
    Fails (t.put id o)
      ↔ o.Unstorable ∨ fitsWord (t.lastException + 1) = false ∨ t.hasEvent id = false := by
  rw [put, Override.unstorable_iff, fails_bind, fails_bind]
  cases o.standIn with
  | error fault => exact ⟨fun _ => .inl (.inl ⟨fault, rfl⟩), fun _ => .inl ⟨fault, rfl⟩⟩
  | ok replacement =>
      have stores : ∀ stored, Fails ((t.putException id o.date.compactText o.kind stored).map
          fun t => (t, ())) ↔ fitsWord (t.lastException + 1) = false ∨ t.hasEvent id = false :=
        fun _ => fails_map.trans fails_putException
      simp only [not_fails_ok, false_or, Except.ok.injEq, exists_eq_left', fails_bind, stores]
      constructor
      · rintro (beyond | ⟨_, -, cause⟩)
        · exact .inl beyond
        · exact .inr cause
      · intro either
        cases stored : storedInteger? replacement with
        | error fault => exact .inl ⟨fault, rfl⟩
        | ok given =>
            rw [stored] at either
            exact .inr ⟨given, rfl, either.resolve_left (not_fails_ok _)⟩

/-- An override takes the place of a stand-in unless that is too deep to be dropped whole, or the
override cannot be put then. -/
theorem Nested.fails_replacing (h : t.Nested) :
    Fails (t.replacing id o)
      ↔ (∃ child, t.StandsIn id o.date o.replacement child ∧ t.IsDeep child.id) ∨ o.Unstorable
        ∨ fitsWord (t.lastException + 1) = false
        ∨ (t.dropped id o.date o.replacement).hasEvent id = false := by
  rw [Tables.fails_replacing, h.isWhole_dropping_eq_false, fails_put, lastException_dropped]

theorem standIn_eq {o : Override} (fits : standIn.all fitsWord = true)
    (names : o.replacement = standIn.map decimalInt) : o.standIn = .ok standIn := by
  rw [Override.standIn, names]
  cases standIn with
  | none => rfl
  | some m => exact congrArg (Except.map some) (Integer.read_decimalInt (Integer.isShort_of_fitsWord fits))

/-- Putting an override that names an id, or none. -/
theorem putException_of_put {o : Override} {u : Unit} (fits : standIn.all fitsWord = true)
    (names : o.replacement = standIn.map decimalInt) (made : t.put id o = .ok (t', u)) :
    t.putException id o.date.compactText o.kind standIn = .ok t' := by
  obtain ⟨replacement, told, made⟩ := bind_eq_ok.mp made
  obtain rfl : standIn = replacement := Except.ok.inj ((standIn_eq fits names).symm.trans told)
  obtain ⟨stored, same, made⟩ := bind_eq_ok.mp made
  obtain ⟨-, rfl⟩ := storedInteger?_eq_ok.mp same
  obtain ⟨_, written, left⟩ := map_eq_ok.mp made
  cases left
  exact written

/-- An override with an id that can be stored is put on a day of an event that is there. -/
theorem exists_put {o : Override} (fits : standIn.all fitsWord = true)
    (names : o.replacement = standIn.map decimalInt) (there : t.hasEvent id = true)
    (free : fitsWord (t.lastException + 1) = true) : ∃ t', t.put id o = .ok (t', ()) := by
  cases made : t.put id o with
  | ok result => exact ⟨result.1, rfl⟩
  | error fault =>
      rcases fails_put.mp ⟨fault, made⟩ with beyond | full | absent
      · obtain ⟨fault, failed⟩ := Override.unstorable_iff.mp beyond
        rw [standIn_eq fits names, ok_bind, storedInteger?_eq_ok.mpr ⟨fits, rfl⟩] at failed
        cases failed
      · rw [free] at full
        cases full
      · rw [there] at absent
        cases absent

end Tables

end Recurrence
