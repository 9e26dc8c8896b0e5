import Std.Time.DateTime.Timestamp
import Recurrence.CommandLine.Call
import Recurrence.Store.File

/-! The program: the files, the clock and the terminal around a call. The files a call may need are
read before it, and those it has changed are written after it. -/

namespace Recurrence.Program

open CommandLine

/-- The moment at a number of seconds since the beginning of 1970, on the clock of universal
time. -/
def momentAt (seconds : Int) : Moment :=
  let date := (Date.ofOrdinal? (719163 + seconds / 86400)).getD Date.first
  ⟨date, TimeOfDay.ofMicros ((seconds % 86400).toNat * microsPerSecond), none⟩

/-- The homes a call may use: where one stands, the one chosen before, and the one it chooses. -/
def homes (s : Surroundings) (arguments : List Text) : List Home :=
  let given := (Given.read programForms false arguments).toOption.getD {}
  let chosen := (given.values "--home".toList).getLast?
  .here :: [Home.find s false false, Home.find { s with chosen } false false].filterMap
    Except.toOption

/-- The files of a home that a call may read. -/
def files (today : Date) (h : Home) : List Path :=
  [settingsPath h, eventsPath h, h.path.join (Journal.dayFile today)]

/-- A file as it stands on the disk. -/
def readNode? (p : Path) : IO (Option (Node Tables)) := do
  try
    let text := (← IO.FS.readFile (String.ofList p.text)).toList
    if p.names.getLast? = some eventsName then
      return some (((Tables.ofFileText? text).map Node.other).getD (.text text))
    else return some (.text text)
  catch _ => return none

def readDisk : Disk Tables → List Path → IO (Disk Tables)
  | d, [] => return d
  | d, p :: ps => do
    match ← readNode? p with
    | none => readDisk d ps
    | some node => readDisk (d.withFile p node) ps

/-- The path to a place. -/
def pathTo (place : List Text) : Path :=
  match place with
  | ['/'] :: names => { root := ['/'], names }
  | names => { names }

def writeNode (place : List Text) (node : Node Tables) : IO Unit := do
  let p := pathTo place
  IO.FS.createDirAll (String.ofList p.above.text)
  match node with
  | .folder => IO.FS.createDirAll (String.ofList p.text)
  | .text t => IO.FS.writeFile (String.ofList p.text) (String.ofList t)
  | .other tables =>
    IO.FS.writeFile (String.ofList p.text) (String.ofList tables.fileText)

/-- Writes what has changed. -/
def writeDisk (old new : Disk Tables) : IO Unit := do
  for (place, node) in new.nodes do
    unless old.node? place = some node do
      writeNode place node

/-- Makes a call, and as long as it asks for an answer that the input does not hold, makes it again
with one more line. The first `shown` characters are on the terminal already. -/
partial def converse (m : Machine) (call : Call) (shown : Nat) : IO (Machine × Outcome) := do
  let (after, outcome) := m.call call
  IO.print (String.ofList (outcome.printed.drop shown))
  if outcome.isUnanswered then
    IO.print " "
    let line ← (← IO.getStdin).getLine
    if line.isEmpty then
      IO.print (String.ofList abortedText)
      return (after, outcome)
    else
      converse m { call with input := call.input ++ line.toList }
        (outcome.printed.length + 1 + line.length)
  else return (after, outcome)

def fromEnvironment (name : String) : IO (Option Text) :=
  return (← IO.getEnv name).map String.toList

def run (arguments : List Text) : IO UInt32 := do
  let surroundings : Surroundings := {
    chosen := ← fromEnvironment "RRKIT_HOME"
    configFolder := ← fromEnvironment "XDG_CONFIG_HOME"
    userFolder := ← fromEnvironment "HOME" }
  let columns := ((← fromEnvironment "COLUMNS").bind Integer.read?).getD 80
  let now := momentAt (← Std.Time.Timestamp.now).toSecondsSinceUnixEpoch.val
  let disk ← readDisk {} ((homes surroundings arguments).flatMap (files now.date))
  let (after, outcome) ← converse { disk, surroundings } {
    arguments, now, base := .around now.date.year
    columns := if columns ≤ 0 then 80 else columns.toNat } 0
  writeDisk disk after.disk
  match outcome.fault with
  | some fault => IO.eprintln (String.ofList fault.message)
  | none => pure ()
  return outcome.code.toUInt32

end Recurrence.Program

def main (arguments : List String) : IO UInt32 :=
  Recurrence.Program.run (arguments.map String.toList)
