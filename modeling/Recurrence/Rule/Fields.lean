import Recurrence.Rule.Text
import Recurrence.Terminal.Width

/-! A rule shown with all its fields: on one line where there is room, else a field on each line,
and the items of a list that has no room on lines of their own. -/

namespace Recurrence

/-- The value of a field. -/
inductive FieldText
  | single (text : Text)
  | list (items : List Text)

namespace FieldText

def ofList (items : List Text) : FieldText :=
  if items.isEmpty then single "None".toList else list items

def text : FieldText → Text
  | single t => t
  | list items => '[' :: Text.joined [',', ' '] items ++ [']']

/-- The lines of a field below one another, each with a comma but the last. -/
def itemLines : List Text → List Text
  | [] => []
  | [t] => [t]
  | t :: ts => (t ++ [',']) :: itemLines ts

/-- The lines of a named field within the lines of a rule. -/
def lines (width : Nat) (name : Text) (value : FieldText) (isLast : Bool) : List Text :=
  let comma : Text := if isLast then [] else [',']
  let whole : Text := "    ".toList ++ name ++ '=' :: value.text
  match value with
  | single _ => [whole ++ comma]
  | list items =>
    if whole.cells + 2 ≤ width then [whole ++ comma]
    else
      ("    ".toList ++ name ++ ['=', '[']) ::
        (itemLines items).map ("        ".toList ++ ·) ++ ["    ]".toList ++ comma]

end FieldText

namespace Rule

def frequencyField (f : Frequency) : Text :=
  "<Frequency.".toList ++ f.name ++ ": ".toList ++ Text.quoted f.name ++ ['>']

def dayField (d : Date) : Text :=
  "datetime.date(".toList ++ Text.joined [',', ' '] [decimal d.year, decimal d.month, decimal d.day]
    ++ [')']

def integerField : Option Int → Except Fault FieldText
  | none => .ok (.single "None".toList)
  | some n => (Integer.write n).map .single

/-- The fields with their names. -/
def fields (r : Rule) : Except Fault (List (Text × FieldText)) := do
  let interval ← integerField r.interval
  let byMonthDay ← r.byMonthDay.mapM Integer.write
  let byMonth ← r.byMonth.mapM Integer.write
  let count ← integerField r.count
  .ok [
    ("frequency".toList, .single ((r.frequency.map frequencyField).getD "None".toList)),
    ("interval".toList, interval),
    ("by_day".toList, .ofList (r.byDay.map Text.quoted)),
    ("by_month_day".toList, .ofList byMonthDay),
    ("by_month".toList, .ofList byMonth),
    ("count".toList, count),
    ("until".toList, .single ((r.ends.map fun e => dayField e.date).getD "None".toList))]

/-- The lines of the fields; the last has no comma. -/
def fieldLinesOf (width : Nat) : List (Text × FieldText) → List Text
  | [] => []
  | (name, value) :: rest => value.lines width name rest.isEmpty ++ fieldLinesOf width rest

/-- The lines of a rule with its fields. -/
def fieldLines (width : Nat) (r : Rule) : Except Fault (List Text) :=
  r.fields.map fun fields =>
    let whole : Text := "RecurrenceRule(".toList
      ++ Text.joined [',', ' '] (fields.map fun f => f.1 ++ '=' :: f.2.text) ++ [')']
    if whole.cells ≤ width then [whole]
    else "RecurrenceRule(".toList :: fieldLinesOf width fields ++ [[')']]

end Rule

end Recurrence
