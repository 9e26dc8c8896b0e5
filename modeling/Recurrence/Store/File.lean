import Recurrence.Store.Tables
import Recurrence.Text.Integer

/-! The file of the tables: a line for each row, and on a line tabs between the columns. Texts are
written with escapes for the backslash, the tab and the line feed, and what may be missing with an
equals sign in front where it is there. -/

namespace Recurrence

namespace FileText

def escaped : Text → Text
  | [] => []
  | c :: r =>
    if c = '\\' then '\\' :: '\\' :: escaped r
    else if c = '\t' then '\\' :: 't' :: escaped r
    else if c = '\n' then '\\' :: 'n' :: escaped r
    else c :: escaped r

def unescaped : Text → Text
  | [] => []
  | '\\' :: 't' :: r => '\t' :: unescaped r
  | '\\' :: 'n' :: r => '\n' :: unescaped r
  | '\\' :: c :: r => c :: unescaped r
  | c :: r => c :: unescaped r

def maybe {α : Type} (write : α → Text) : Option α → Text
  | none => []
  | some a => '=' :: write a

/-- A column that may be missing. -/
def maybe? {α : Type} (read : Text → Option α) : Text → Option (Option α)
  | [] => some none
  | _ :: r => (read r).map some

end FileText

open FileText

def EventRow.line (e : EventRow) : List Text :=
  ["event".toList, decimalInt e.id, escaped e.title, e.start, e.finish,
   maybe escaped e.ruleText, maybe escaped e.endDate, maybe decimalInt e.count,
   maybe decimalInt e.parent, e.created, e.modified]

def ExceptionRow.line (x : ExceptionRow) : List Text :=
  ["exception".toList, decimalInt x.id, decimalInt x.parent, x.date, x.kind.name,
   maybe decimalInt x.replacement]

namespace Tables

/-- The tables as the text of a file. -/
def fileText (t : Tables) : Text :=
  let rows := ["last".toList, decimalInt t.lastEvent, decimalInt t.lastException]
    :: (t.events.map EventRow.line ++ t.exceptions.map ExceptionRow.line)
  rows.flatMap fun columns => Text.joined ['\t'] columns ++ ['\n']

/-- The tables after one more line. -/
def withLine? (t : Tables) (columns : List Text) : Option Tables :=
  match columns with
  | [name, a, b] =>
    if name = "last".toList then do
      some { t with lastEvent := ← Integer.read? a, lastException := ← Integer.read? b }
    else none
  | [name, id, parent, date, kind, replacement] =>
    if name = "exception".toList then do
      let x : ExceptionRow := {
        id := ← Integer.read? id, parent := ← Integer.read? parent, date
        kind := ← OverrideKind.ofName? kind, replacement := ← maybe? Integer.read? replacement }
      some { t with exceptions := t.exceptions ++ [x] }
    else none
  | [name, id, title, start, finish, ruleText, endDate, count, parent, created, modified] =>
    if name = "event".toList then do
      let e : EventRow := {
        id := ← Integer.read? id, title := unescaped title, start, finish
        ruleText := ← maybe? (fun t => some (unescaped t)) ruleText
        endDate := ← maybe? (fun t => some (unescaped t)) endDate
        count := ← maybe? Integer.read? count, parent := ← maybe? Integer.read? parent
        created, modified }
      some { t with events := t.events ++ [e] }
    else none
  | _ => none

/-- The tables in the text of a file. -/
def ofFileText? (t : Text) : Option Tables :=
  ((Text.lines t).filter fun line => !line.isEmpty).foldlM
    (fun tables line => tables.withLine? (Text.pieces '\t' line)) {}

end Tables

end Recurrence
