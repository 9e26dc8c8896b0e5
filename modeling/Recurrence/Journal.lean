import Recurrence.Text.Wrap
import Recurrence.Calendar.Moment
import Recurrence.Place.Disk
import Recurrence.Place.Home

/-! The journal: entries that tell the time, who made them and a message broken into lines. They
are added to a file of the day, and printed where that is asked for or the file cannot be
written. -/

namespace Recurrence.Journal

/-- Messages are as wide as the terminal less six columns, but at least forty. -/
def lineWidth (columns : Int) : Nat :=
  let columns := if columns ≤ 0 then 80 else columns
  (max (columns - 6) 40).toNat

/-- The text of an entry. -/
def entryText (time : TimeOfDay) (columns : Int) (caller message : Text) : Text :=
  let lines := Text.wrap (lineWidth columns) [' ', ' ', ' '] message.strip
  "- ".toList ++ time.clockText ++ " log_msg (".toList ++ caller ++ "):  ".toList
    ++ lines.flatMap ('\n' :: ·) ++ ['\n', '\n']

/-- The journal's file of a day. -/
def dayFile (date : Date) : Path :=
  { names := [journalName,
      "log_".toList ++ decimalPadded 2 (date.year % 100) ++ decimalPadded 2 date.month
        ++ decimalPadded 2 date.day ++ ".md".toList] }

/-- A message to be put into the journal. -/
structure Entry where
  caller : Text
  message : Text
  file : Option Path := none
  print : Bool := false

/-- Adds text to a file of the journal; its folder is made if it is missing. -/
def addTo {α : Type} (disk : Disk α) (p : Path) (text : Text) : Disk α × Except Fault Unit :=
  match disk.makeFolders p.above with
  | (disk, .error fault) => (disk, .error fault)
  | (disk, .ok ()) =>
    match disk.append p text with
    | .ok disk => (disk, .ok ())
    | .error fault => (disk, .error fault)

/-- Writes an entry; the answer is what is printed. A path that holds a NUL is a fault; other
problems with the file are not told. -/
def write {α : Type} (disk : Disk α) (home : Home) (enabled : Bool) (now : Moment) (columns : Int)
    (entry : Entry) : Disk α × Except Fault Text :=
  if !enabled && !entry.print then (disk, .ok [])
  else
    let text := entryText now.time columns entry.caller entry.message
    let (disk, written) :=
      if enabled then addTo disk (home.path.join (entry.file.getD (dayFile now.date))) text
      else (disk, .ok ())
    match written with
    | .ok () => (disk, .ok (if entry.print then text ++ ['\n'] else []))
    | .error (.unusablePath path .hasNul) => (disk, .error (.unusablePath path .hasNul))
    | .error _ => (disk, .ok (text ++ ['\n']))

end Recurrence.Journal
