import Recurrence.Proofs.Store.Putting

/-! Putting an override is not all or nothing. The event that stood in for the day is dropped before
the new override can fail, or fails to be dropped whole, and the next commit makes the loss
lasting. -/

namespace Recurrence

namespace Tables

variable {t : Tables} {id : Int} {day : Date} {keep : Option Text} {o : Override}

/-- An event is lost with its stand-in only if it stands in for itself. -/
theorem Nested.hasEvent_dropped {child e : EventRow} (h : t.Nested) (there : e ∈ t.events)
    (stands : t.StandsIn e.id day keep child) :
    (t.dropped e.id day keep).hasEvent e.id = false ↔ child.id = e.id := by
  constructor
  · intro lost
    obtain ⟨other, also, young⟩ := h.takes_dropping.events e there
      fun kept => hasEvent_eq_false_iff.mp lost e kept rfl
    have same := stands.id_eq also
    have old := h.parents child stands.member e.id stands.owned
    omega
  · intro same
    exact same ▸ stands.absent

end Tables

namespace Store

variable {s : Store} {c : Conditions} {id : Int} {o : Override} {child : EventRow} {x : ExceptionRow}

/-- What makes an override lose the stand-in of its day without taking its place: the event is there
and an exception names its child for the day, the override names another one or none, and then the
child is too deep to be deleted whole, or the id that the override names is no integer that can be
stored, or no id is left, or the event was its own child. -/
structure LosesStandIn (s : Store) (c : Conditions) (id : Int) (o : Override) (child : EventRow)
    (x : ExceptionRow) : Prop where
  read : ∃ event, s.tables.read c.standpoint id = .ok event
  excepted : x ∈ s.tables.exceptions ∧ x.parent = id ∧ x.date = o.date.compactText
  standsIn : x.replacement = some child.id
  owned : child ∈ s.tables.events ∧ child.parent = some id
  other : o.replacement ≠ some (decimalInt child.id)
  cause : s.tables.IsDeep child.id ∨ o.Unstorable ∨ fitsWord (s.tables.lastException + 1) = false
    ∨ child.id = id

/-- Putting an override in the place of a stand-in fails for one of four causes. -/
theorem fails_replacing_standsIn (nested : s.tables.Nested) {event : Event}
    (read : s.tables.read c.standpoint id = .ok event)
    (stands : s.tables.StandsIn id o.date o.replacement child) :
    Fails (s.tables.replacing id o)
      ↔ s.tables.IsDeep child.id ∨ o.Unstorable ∨ fitsWord (s.tables.lastException + 1) = false
        ∨ child.id = id := by
  obtain ⟨row, there, rfl, -⟩ := nested.sound.read_eq_ok.mp read
  have deep : (∃ other, s.tables.StandsIn row.id o.date o.replacement other
      ∧ s.tables.IsDeep other.id) ↔ s.tables.IsDeep child.id :=
    ⟨fun ⟨_, also, deep⟩ => stands.id_eq also ▸ deep, fun deep => ⟨child, stands, deep⟩⟩
  rw [nested.fails_replacing, deep, nested.hasEvent_dropped there stands]

theorem LosesStandIn.stands (h : s.LosesStandIn c id o child x) (sound : s.tables.Sound) :
    s.tables.StandsIn id o.date o.replacement child where
  member := h.owned.1
  named := sound.replaced?_eq_some.mpr
    ⟨⟨x, h.excepted.1, h.excepted.2.1, h.excepted.2.2, h.standsIn⟩, h.other⟩
  owned := h.owned.2

theorem LosesStandIn.left (h : s.LosesStandIn c id o child x) (nested : s.tables.Nested) :
    ∃ fault notes, s.call (putException c id o)
      = (.error fault, ⟨s.committed, s.tables.dropped id o.date o.replacement, notes⟩) := by
  obtain ⟨event, read⟩ := h.read
  obtain ⟨fault, failed⟩ :=
    (fails_replacing_standsIn nested read (h.stands nested.sound)).mpr h.cause
  obtain ⟨notes, outcome⟩ := s.call_putException read o
  rw [outcome, failed]
  exact ⟨fault, notes, rfl⟩

end Store

end Recurrence
