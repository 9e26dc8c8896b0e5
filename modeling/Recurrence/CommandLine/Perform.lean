import Recurrence.Calendar.Span
import Recurrence.CommandLine.Command
import Recurrence.CommandLine.Session
import Recurrence.Phrase.Basic
import Recurrence.Rule.Fields
import Recurrence.Terminal.Table

/-! What the commands do. -/

namespace Recurrence.CommandLine

/-- The rule in a text, or the end of the call. -/
def ruleOrFail (text : Text) : Activity Rule := do
  match ← orStop (Phrase.read (← standpoint) text) with
  | some (rule, _) => return rule
  | none => failWith ("Could not read a recurrence rule from ".toList ++ text.quoted)

/-- Prints a rule as text and in words. -/
def printRule (c : Context) (rule : Rule) : Activity Unit := do
  printMarked ("[green]✔[/green] ".toList ++ (← orStop rule.write))
  printMarked ("  [blue]".toList ++ (← orStop (rule.describe c.settings.language))
    ++ "[/blue]".toList)

/-- The kind of an occurrence's override, and the event that stands in. -/
def overrideCell (o : Occurrence) : Text :=
  match o.override with
  | none => []
  | some v =>
    match v.replacement with
    | none => v.kind.name
    | some [] => v.kind.name
    | some id => v.kind.name ++ " → #".toList ++ id

def occurrenceRow (twelve : Bool) (number : Nat) (o : Occurrence) : List Text :=
  [decimal number, o.start.date.dashedText ++ ' ' :: o.start.date.weekday.englishName,
   spanText twelve o.start (some o.finish), overrideCell o]

/-- The rows of occurrences, numbered from a number on. -/
def occurrenceRows (twelve : Bool) : (number : Nat) → List Occurrence → List (List Text)
  | _, [] => []
  | number, o :: os => occurrenceRow twelve number o :: occurrenceRows twelve (number + 1) os

def occurrenceColumns : List Terminal.Column :=
  [{ title := ['#'], atRight := true }, { title := "date".toList }, { title := "time".toList },
   { title := "exception".toList }]

def printOccurrences (c : Context) (os : List Occurrence) : Activity Unit :=
  printLines (Terminal.table occurrenceColumns (occurrenceRows c.settings.twelveHours 1 os))

/-- Start and end of an event. -/
def AnchorSpan.ends (a : AnchorSpan) : Except Fault (Moment × Moment) :=
  match a.finish with
  | some finish => .ok (a.start, finish)
  | none => do
    let duration ← Duration.ofUnits 0 0 a.minutes 0 0
    let finish ← a.start.add duration
    .ok (a.start, finish)

/-- Answers of the store that end the call with a message; other faults end it as they are. -/
def orFail {α : Type} : Except Fault α → Activity α
  | .ok a => pure a
  | .error (.invalidRule problems) => failWith (Text.joined [';', ' '] problems)
  | .error (.eventNotFound id) => failWith (Fault.eventNotFound id).message
  | .error fault => throw (.fault fault)

/-- An event and a day, as messages name them. -/
def eventOn (id : Int) (day : Date) : Text :=
  '#' :: decimalInt id ++ " on ".toList ++ day.isoText

def done (message : Text) : Activity Unit :=
  printMarked ("[green]✔ ".toList ++ message ++ "[/green]".toList)

def performParse (c : Context) (text : Text) : Activity Unit := do
  match ← orStop (Rule.read? (← standpoint) text) with
  | none => failWith ("Not a recurrence rule: ".toList ++ text.quoted)
  | some rule =>
    printRule c rule
    if c.verbose then
      let columns := (← get).columns
      let lines ← orStop (rule.fieldLines columns)
      printLines (lines.flatMap (Terminal.lines columns))

def performRecognize (c : Context) (phrase : List Text) : Activity Unit := do
  let text := (Text.joined [' '] phrase).strip
  match ← orStop (Phrase.recognize text) with
  | none => failWith ("Could not infer a recurrence from ".toList ++ text.quoted)
  | some rule => printRule c rule

def performValidate (text : Text) : Activity Unit := do
  let rule ← ruleOrFail text
  let problems ← orStop (rule.problems (← today))
  let written ← orStop rule.write
  if problems.isEmpty then printMarked ("[green]✔ Rule is valid:[/green] ".toList ++ written)
  else
    printMarked ("[red]✘ Invalid rule:[/red] ".toList ++ written)
    for p in problems do
      printMarked ("  - ".toList ++ p.message)
    throw (.exit 1)

def performDescribe (c : Context) (text : Text) (language : Option Language) : Activity Unit := do
  let rule ← ruleOrFail text
  printLine (← orStop (rule.describe (language.getD c.settings.language)))

def performExpand (c : Context) (text : Text) (anchor : AnchorSpan) (last : Option Date)
    (ceiling : Option Int) (cancelled modified : List Date) : Activity Unit := do
  let rule ← ruleOrFail text
  let (start, finish) ← orStop anchor.ends
  unless ← orStop (start.notAfter finish) do
    failWith "--end is earlier than --start".toList
  let overrides := OverrideSet.ofList
    (cancelled.map (fun date => { date, kind := .cancelled })
      ++ modified.map fun date => { date, kind := .modified })
  let occurrences ← orStop (Series.expand { start, finish, rule } overrides {
    queryEnd := last.map Stamp.day
    maxInstances := ceiling.getD c.settings.maxInstances
    horizonYears := c.settings.horizonYears })
  if c.verbose then
    printRule c rule
    let duration ← orStop (finish.since start)
    printMarked ("[blue]duration:[/blue] ".toList ++ duration.words)
  printOccurrences c occurrences

def performAdd (c : Context) (title text : Text) (anchor : AnchorSpan) : Activity Unit := do
  let rule ← ruleOrFail text
  let (start, finish) ← orStop anchor.ends
  let id ← orFail (← withStore c fun conditions =>
    Store.createSeries conditions (some title) start finish rule none)
  let written ← orStop rule.write
  printMarked ("[green]✔ Added series #".toList ++ decimalInt id ++ ":[/green] ".toList ++ title
    ++ ' ' :: written)

/-- Lists the occurrences from a day to another, at first today and four weeks later. -/
def performList (c : Context) (id : Int) (first last : Option Date) : Activity Unit := do
  let first := first.getD (← today)
  let last ← orStop (match last with
    | some d => .ok d
    | none => first.addDays 28)
  let ((occurrences, rule?), event) ← orFail (← withStore c fun conditions => do
    let found ← Store.getOccurrences conditions id ⟨first, TimeOfDay.midnight, none⟩
      ⟨last, TimeOfDay.last, none⟩
    return (found, ← Store.getEvent conditions id))
  let name := '#' :: decimalInt id ++ ' ' :: event.title
  match rule? with
  | none => printMarked ("[yellow]".toList ++ name ++ " does not repeat.[/yellow]".toList)
  | some rule =>
    let described ← orStop (rule.describe c.settings.language)
    printMarked ("[bold]".toList ++ name ++ "[/bold]  ".toList ++ described)
    printOccurrences c occurrences

def performCancel (c : Context) (id : Int) (day : Date) : Activity Unit := do
  orFail (← withStore c fun conditions => Store.cancelOccurrence conditions id day)
  done ("Cancelled ".toList ++ eventOn id day)

def performModify (c : Context) (id : Int) (day : Date) (title : Option Text)
    (start finish : Option Moment) : Activity Unit := do
  let child ← orFail (← withStore c fun conditions =>
    Store.modifyOccurrence conditions id day title start finish)
  done ("Modified ".toList ++ eventOn id day ++ " → #".toList ++ decimalInt child)

def performMove (c : Context) (id : Int) (day : Date) (start : Moment) (finish : Option Moment) :
    Activity Unit := do
  let child ← orFail (← withStore c fun conditions =>
    Store.moveOccurrence conditions id day (some start) finish)
  done ("Moved ".toList ++ eventOn id day ++ " → #".toList ++ decimalInt child)

def performRestore (c : Context) (id : Int) (day : Date) : Activity Unit := do
  if ← orFail (← withStore c fun conditions => Store.restoreOccurrence conditions id day) then
    done ("Restored ".toList ++ eventOn id day)
  else
    printMarked ("[yellow]No exception for ".toList ++ eventOn id day ++ "[/yellow]".toList)

/-- Splits a series; an empty text asks for the old rule, as none does. -/
def performSplit (c : Context) (id : Int) (day : Date) (text title : Option Text) :
    Activity Unit := do
  let rule ←
    match text with
    | none => pure none
    | some [] => pure none
    | some t => some <$> ruleOrFail t
  let new ← orFail (← withStore c fun conditions =>
    Store.splitSeries conditions id day rule title none)
  done ("Split #".toList ++ decimalInt id ++ " at ".toList ++ day.isoText
    ++ ": new series #".toList ++ decimalInt new)

def performDelete (c : Context) (id : Int) : Activity Unit := do
  orFail (← withStore c fun conditions => Store.deleteSeries conditions id)
  journal c (← get).now "delete".toList ("cli deleted series ".toList ++ decimalInt id)
  done ("Deleted series #".toList ++ decimalInt id)

def perform (c : Context) : Command → Activity Unit
  | .parse text => performParse c text
  | .recognize phrase => performRecognize c phrase
  | .validate text => performValidate text
  | .describe text language => performDescribe c text language
  | .expand text anchor last ceiling cancelled modified =>
    performExpand c text anchor last ceiling cancelled modified
  | .add title text anchor => performAdd c title text anchor
  | .list id first last => performList c id first last
  | .cancel id day => performCancel c id day
  | .modify id day title start finish => performModify c id day title start finish
  | .move id day start finish => performMove c id day start finish
  | .restore id day => performRestore c id day
  | .split id day text title => performSplit c id day text title
  | .delete id _ => performDelete c id

end Recurrence.CommandLine
