import Recurrence.Rule.Basic
import Recurrence.Text.Integer
import Recurrence.DateText.Reading

/-! Rules as text: parts `KEY=VALUE` between semicolons. Reading passes over parts it does not
know and values it cannot use; the last usable part of a key holds. It fails where the reading of
an end does. Writing keeps one order of keys, and writes the end only where there is no count. -/

namespace Recurrence

/-- The keys of rule texts. -/
inductive RuleKey
  | frequency | interval | byDay | byMonthDay | byMonth | count | ends
  deriving DecidableEq

namespace RuleKey

def all : List RuleKey := [frequency, interval, byDay, byMonthDay, byMonth, count, ends]

def name : RuleKey → Text
  | frequency => "FREQ".toList
  | interval => "INTERVAL".toList
  | byDay => "BYDAY".toList
  | byMonthDay => "BYMONTHDAY".toList
  | byMonth => "BYMONTH".toList
  | count => "COUNT".toList
  | ends => "UNTIL".toList

/-- The key with a name, in any case and with blanks around it. -/
def ofName? (t : Text) : Option RuleKey := all.find? fun k => k.name == t.strip.upper

end RuleKey

namespace Rule

open DateText (Standpoint)

/-- The weekday codes between commas, in any case; everything else is left out. -/
def weekdayCodes (t : Text) : List Text :=
  (Text.pieces ',' t).filterMap fun part => (Weekday.ofCode? part.strip.upper).map Weekday.code

/-- The integers between commas; everything else is left out. -/
def integers (t : Text) : List Int := (Text.pieces ',' t).filterMap Integer.read?

/-- The rule after one more key and value. A value that cannot be used changes nothing, but a
list without a usable item is an empty list. -/
def withValue (here : Standpoint) (r : Rule) (key : RuleKey) (value : Text) : Except Fault Rule :=
  match key with
  | .frequency => .ok { r with frequency := (Frequency.ofName? value).or r.frequency }
  | .interval => .ok { r with interval := (Integer.read? value).or r.interval }
  | .byDay => .ok { r with byDay := weekdayCodes value }
  | .byMonthDay => .ok { r with byMonthDay := integers value }
  | .byMonth => .ok { r with byMonth := integers value }
  | .count => .ok { r with count := (Integer.read? value).or r.count }
  | .ends =>
    (DateText.day? here value).map fun d => { r with ends := (d.map Stamp.day).or r.ends }

/-- The rule after one more part; a part without an equals sign or a known key changes nothing. -/
def withPart (here : Standpoint) (r : Rule) (part : Text) : Except Fault Rule :=
  match part.cut? '=' with
  | none => .ok r
  | some (name, value) =>
    match RuleKey.ofName? name with
    | none => .ok r
    | some key => r.withValue here key value.strip

/-- The parts of a rule text, without the label that may stand before them. -/
def parts (t : Text) : List Text :=
  let body := t.strip
  Text.pieces ';'
    (if "RRULE:".toList.isPrefixOf body.upper then body.drop "RRULE:".toList.length else body)

/-- The rule in a text, if a usable frequency stands in it. -/
def read? (here : Standpoint) (t : Text) : Except Fault (Option Rule) :=
  ((parts t).foldlM (withPart here) { frequency := none }).map fun r =>
    if r.frequency.isSome then some r else none

/-- A part with its key. -/
def part (key : RuleKey) (value : Text) : Text := key.name ++ '=' :: value

/-- A part for a value that may be missing. -/
def optionalPart (key : RuleKey) (value : Except Fault (Option Text)) :
    Except Fault (List Text) :=
  value.map fun v => v.toList.map (part key)

def intervalText (r : Rule) : Except Fault (Option Text) :=
  match r.interval with
  | some n => if 1 < n then (Integer.write n).map some else .ok none
  | none => .ok none

def integersText (ns : List Int) : Except Fault (Option Text) :=
  if ns.isEmpty then .ok none else (Integer.writeAll [','] ns).map some

/-- The count, or else the day the rule ends on. -/
def boundParts (r : Rule) : Except Fault (List Text) :=
  match r.count?, r.ends with
  | some n, _ => (Integer.write n).map fun t => [part .count t]
  | none, some s => .ok [part .ends s.date.compactText]
  | none, none => .ok []

/-- The text of a rule. -/
def write (r : Rule) : Except Fault Text :=
  match r.frequency with
  | none => .error .frequencyMissing
  | some f => do
    let interval ← optionalPart .interval r.intervalText
    let byMonthDay ← optionalPart .byMonthDay (integersText r.byMonthDay)
    let byMonth ← optionalPart .byMonth (integersText r.byMonth)
    let bound ← r.boundParts
    .ok (Text.joined [';']
      (part .frequency f.name :: interval
        ++ (if r.byDay.isEmpty then [] else [part .byDay (Text.joined [','] r.byDay)])
        ++ byMonthDay ++ byMonth ++ bound))

end Rule

end Recurrence
