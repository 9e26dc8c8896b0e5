import Recurrence.DateText.Reading
import Recurrence.Text.Integer

/-! Overrides of single days of a series: the day is cancelled, or an event of its own stands in
for it, on the same day or moved. -/

namespace Recurrence

inductive OverrideKind
  | cancelled | modified | moved
  deriving DecidableEq

namespace OverrideKind

def all : List OverrideKind := [cancelled, modified, moved]

def name : OverrideKind → Text
  | cancelled => "cancelled".toList
  | modified => "modified".toList
  | moved => "moved".toList

def ofName? (t : Text) : Option OverrideKind := all.find? fun k => k.name == t

end OverrideKind

structure Override where
  date : Date
  kind : OverrideKind
  /-- The id of the event that stands in, as text. -/
  replacement : Option Text := none
  deriving DecidableEq

/-- A value in a record, of one of the kinds records hold. -/
inductive RecordValue
  | nothing
  | flag (value : Bool)
  | integer (value : Int)
  /-- A number with a fraction or an exponent, as it is written. -/
  | fraction (numeral : Text)
  | text (value : Text)

namespace RecordValue

def shown : RecordValue → Except Fault Text
  | nothing => .ok "None".toList
  | flag true => .ok "True".toList
  | flag false => .ok "False".toList
  | integer n => Integer.write n
  | fraction numeral => .ok numeral
  | text t => .ok t.quoted

/-- The value as text; text stands for itself. -/
def asText : RecordValue → Except Fault Text
  | text t => .ok t
  | v => v.shown

/-- The kind a value names, exactly as it is written. -/
def kind : RecordValue → Except Fault OverrideKind
  | text t =>
    match OverrideKind.ofName? t with
    | some k => .ok k
    | none => .error (.unknownOverride t.quoted)
  | v => v.shown.bind fun s => .error (.unknownOverride s)

/-- An id as text, if there is one. -/
def id? : RecordValue → Except Fault (Option Text)
  | nothing => .ok none
  | v => v.asText.map some

/-- The day a value tells. -/
def day (here : DateText.Standpoint) (v : RecordValue) : Except Fault Date := do
  let t ←
    match v with
    | nothing => .ok []
    | _ => v.asText
  match ← DateText.day? here t with
  | some d => .ok d
  | none => v.shown.bind fun s => .error (.unreadableOverrideDay s)

end RecordValue

/-- A row of loose values. The short names go before the long ones wherever they are present. -/
structure Record where
  date : Option RecordValue := none
  exceptionDate : RecordValue := .nothing
  type : Option RecordValue := none
  exceptionType : RecordValue := .nothing
  modifiedEventId : RecordValue := .nothing

namespace Override

/-- The override of a day, from loose values. -/
def ofValues (date : Date) (kind id : RecordValue) : Except Fault Override := do
  let kind ← kind.kind
  let replacement ← id.id?
  .ok { date, kind, replacement }

def ofRecord (here : DateText.Standpoint) (r : Record) : Except Fault Override := do
  let date ← (r.date.getD r.exceptionDate).day here
  ofValues date (r.type.getD r.exceptionType) r.modifiedEventId

def isCancelled (o : Override) : Bool := o.kind == .cancelled

end Override

end Recurrence
