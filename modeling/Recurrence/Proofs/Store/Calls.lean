import Recurrence.Proofs.Store.Writes

/-! The calls on a store, and the stores that runs of calls lead to. Calls may succeed or fail, and
each is made under conditions of its own. -/

namespace Recurrence.Store

inductive Call
  | create (title : Option Text) (start finish : Moment) (rule : Rule) (today : Option Date)
  | add (title : Option Text) (start finish : Moment) (rule : Option Rule) (parent : Option Int)
  | get (id : Int)
  | updateRule (id : Int) (rule : Option Rule)
  | exceptions (id : Int)
  | put (id : Int) (o : Override)
  | remove (id : Int) (day : Date)
  | occurrences (id : Int) (first last : Moment)
  | modify (id : Int) (day : Date) (title : Option Text) (start finish : Option Moment)
  | move (id : Int) (day : Date) (start finish : Option Moment)
  | cancel (id : Int) (day : Date)
  | restore (id : Int) (day : Date)
  | delete (id : Int)
  | split (id : Int) (day : Date) (rule : Option Rule) (title : Option Text) (today : Option Date)
  | reopen

/-- The store a call leaves. -/
def after (s : Store) (c : Conditions) : Call → Store
  | .create title start finish rule today => (s.call (createSeries c title start finish rule today)).2
  | .add title start finish rule parent => (s.call (addEvent c title start finish rule parent)).2
  | .get id => (s.call (getEvent c id)).2
  | .updateRule id rule => (s.call (updateRule c id rule)).2
  | .exceptions id => (s.call (getExceptions c id)).2
  | .put id o => (s.call (putException c id o)).2
  | .remove id day => (s.call (removeException id day)).2
  | .occurrences id first last => (s.call (getOccurrences c id first last)).2
  | .modify id day title start finish => (s.call (modifyOccurrence c id day title start finish)).2
  | .move id day start finish => (s.call (moveOccurrence c id day start finish)).2
  | .cancel id day => (s.call (cancelOccurrence c id day)).2
  | .restore id day => (s.call (restoreOccurrence c id day)).2
  | .delete id => (s.call (deleteSeries c id)).2
  | .split id day rule title today => (s.call (splitSeries c id day rule title today)).2
  | .reopen => s.reopen

namespace Call

/-- What the event that a call adds belongs to. -/
def owner? : Call → Option (Option Int)
  | create .. | split .. => some none
  | add _ _ _ _ parent => some parent
  | modify id .. | move id .. => some (some id)
  | _ => none

/-- The rule that a call hands over. -/
def rule? : Call → Option Rule
  | create _ _ _ rule _ => some rule
  | add _ _ _ rule _ | updateRule _ rule | split _ _ rule _ _ => rule
  | _ => none

/-- The rule that a call hands over has weekdays only. -/
def IsCoded (call : Call) : Prop := ∀ r, call.rule? = some r → r.IsCoded

/-- The event whose rule a call sets. -/
def ruled? : Call → Option Int
  | updateRule id _ | split id .. => some id
  | _ => none

/-- The event whose overrides a call changes. -/
def overridden? : Call → Option Int
  | put id _ | remove id _ | modify id .. | move id .. | cancel id _ | restore id _ => some id
  | _ => none

/-- The day and the kind of the override that a call puts. -/
def put? : Call → Option (Date × OverrideKind)
  | put _ o => some (o.date, o.kind)
  | modify _ day .. => some (day, .modified)
  | move _ day .. => some (day, .moved)
  | cancel _ day => some (day, .cancelled)
  | _ => none

/-- The day whose override a call removes. -/
def removed? : Call → Option Date
  | remove _ day | restore _ day => some day
  | _ => none

/-- The event that a call deletes with what belongs to it. -/
def deleted? : Call → Option Int
  | delete id => some id
  | _ => none

/-- The writes a call may make. -/
inductive Makes (call : Call) : Write → Prop
  | insert (row : EventRow) {begins ends : Moment} {rule : Option Rule} :
      call.owner? = some row.parent → row.Records begins ends rule →
      (call.IsCoded → ∀ r, rule = some r → r.IsCoded) → Makes call (.insert row)
  | setRule (id : Int) (columns : RuleColumns) (modified : Text) {rule : Option Rule} :
      call.ruled? = some id → RuleColumns.ofRule rule = .ok columns →
      (call.IsCoded → ∀ r, rule = some r → r.IsCoded) → Makes call (.setRule id columns modified)
  | dropChild (child id : Int) : call.overridden? = some id → Makes call (.dropChild child id)
  | put (id : Int) (day : Date) (kind : OverrideKind) (replacement : Option Int) :
      call.overridden? = some id → call.put? = some (day, kind) → replacement.all fitsWord = true →
      Makes call (.put id day.compactText kind replacement)
  | removeException (id : Int) (day : Date) :
      call.overridden? = some id → call.removed? = some day →
      Makes call (.removeException id day.compactText)
  | deleteOwn (id : Int) : call.deleted? = some id →
      Makes call (.removeExceptions fun x => x.parent == id)
  | deleteChildren (id : Int) : call.deleted? = some id →
      Makes call (.drop fun e => e.parent == some id)
  | deleteEvent (id : Int) : call.deleted? = some id → Makes call (.drop fun e => e.id == id)

end Call

/-- The stores that runs of allowed calls lead to. -/
inductive Reaches (allowed : Call → Prop) (s : Store) : Store → Prop
  | start : Reaches allowed s s
  | call {between : Store} (c : Conditions) (call : Call) :
      Reaches allowed s between → allowed call → Reaches allowed s (between.after c call)

theorem Reaches.mono {allowed allowed' : Call → Prop} {s last : Store} (run : Reaches allowed s last)
    (more : ∀ call, allowed call → allowed' call) : Reaches allowed' s last := by
  induction run with
  | start => exact .start
  | call c call _ permitted ih => exact .call c call ih (more call permitted)

theorem Reaches.trans {allowed : Call → Prop} {s between last : Store}
    (first : Reaches allowed s between) (second : Reaches allowed between last) :
    Reaches allowed s last := by
  induction second with
  | start => exact first
  | call c call _ permitted ih => exact .call c call ih permitted

/-- The stores that any calls lead to from an empty one. -/
def Reachable (s : Store) : Prop := Reaches (fun _ => True) {} s

section Keeping

variable {P : Tables → Prop}

/-- What outlasts every write of a call outlasts the call, which commits nothing without it. -/
theorem follows_after {s : Store} {call : Call} (held : P s.tables) (c : Conditions)
    (stays : call ≠ .reopen) (keeps : ∀ w, call.Makes w → w.Keeps P) :
    Follows P s (s.after c call) := by
  cases call with
  | create _ start finish rule =>
      apply keeps_createSeries _ s held
      exact fun row owned records => keeps _
        (.insert row (congrArg some owned.symm) records fun coded => coded)
  | add _ start finish rule =>
      apply keeps_addEvent _ s held
      exact fun row owned records => keeps _
        (.insert row (congrArg some owned.symm) records fun coded => coded)
  | get => exact keeps_getEvent s held
  | updateRule id rule =>
      apply keeps_updateRule _ s held
      exact fun columns modified written => keeps _
        (.setRule id columns modified rfl written fun coded => coded)
  | exceptions => exact keeps_getExceptions s held
  | put id o =>
      apply keeps_putException _ _ s held
      · exact fun child => keeps _ (.dropChild child id rfl)
      · exact fun replacement fits => keeps _ (.put id o.date o.kind replacement rfl rfl fits)
  | remove id day =>
      apply keeps_removeException _ _ s held
      · exact fun child => keeps _ (.dropChild child id rfl)
      · exact keeps _ (.removeException id day rfl rfl)
  | occurrences => exact keeps_getOccurrences s held
  | modify id day =>
      apply keeps_overrideOccurrence _ _ _ s held
      · exact fun row begins ends owned records => keeps _
          (.insert row (congrArg some owned.symm) records fun _ _ absent => nomatch absent)
      · exact fun child => keeps _ (.dropChild child id rfl)
      · exact fun replacement fits => keeps _ (.put id day .modified replacement rfl rfl fits)
  | move id day =>
      apply keeps_overrideOccurrence _ _ _ s held
      · exact fun row begins ends owned records => keeps _
          (.insert row (congrArg some owned.symm) records fun _ _ absent => nomatch absent)
      · exact fun child => keeps _ (.dropChild child id rfl)
      · exact fun replacement fits => keeps _ (.put id day .moved replacement rfl rfl fits)
  | cancel id day =>
      apply keeps_putException _ _ s held
      · exact fun child => keeps _ (.dropChild child id rfl)
      · exact fun replacement fits => keeps _ (.put id day .cancelled replacement rfl rfl fits)
  | restore id day =>
      apply keeps_restoreOccurrence _ _ s held
      · exact fun child => keeps _ (.dropChild child id rfl)
      · exact keeps _ (.removeException id day rfl rfl)
  | delete id =>
      apply keeps_deleteSeries _ _ _ s held
      · exact keeps _ (.deleteOwn id rfl)
      · exact keeps _ (.deleteChildren id rfl)
      · exact keeps _ (.deleteEvent id rfl)
  | split id day rule =>
      apply keeps_splitSeries _ _ s held
      · intro old columns modified coded written
        apply keeps _ (.setRule id columns modified rfl written _)
        rintro _ _ ⟨⟩
        exact coded
      · intro row begins ends new owned origin records
        apply keeps _ (.insert row (congrArg some owned.symm) records _)
        rintro given _ ⟨⟩
        exact origin.elim (given new) fun coded => coded
  | reopen => exact absurd rfl stays

theorem Holds.after {s : Store} {call : Call} (held : s.Holds P) (c : Conditions)
    (keeps : ∀ w, call.Makes w → w.Keeps P) : (s.after c call).Holds P := by
  by_cases reopens : call = .reopen
  · subst reopens
    exact ⟨held.1, held.1⟩
  · exact (follows_after held.2 c reopens keeps).holds held

/-- What outlasts every write of the allowed calls holds after every run of them. -/
theorem Reaches.holds {allowed : Call → Prop} {s last : Store} (run : s.Reaches allowed last)
    (held : s.Holds P) (keeps : ∀ call, allowed call → ∀ w, call.Makes w → w.Keeps P) :
    last.Holds P := by
  induction run with
  | start => exact held
  | call c call _ permitted ih => exact ih.after c (keeps call permitted)

end Keeping

end Recurrence.Store
