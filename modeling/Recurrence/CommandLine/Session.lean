import Recurrence.Journal
import Recurrence.Settings.File
import Recurrence.Store.Series
import Recurrence.Terminal.Lines
import Recurrence.Terminal.Markup

/-! What a call of a command sees and changes: the disk with the settings and the events, the clock,
the input, and what has been printed. A call ends early with an exit code or with a fault. -/

namespace Recurrence.CommandLine

structure Session where
  disk : Disk Tables
  surroundings : Surroundings
  now : Moment
  /-- The year that years of two digits lie around. -/
  base : DateText.BaseYear
  columns : Nat
  /-- The lines of the input that have not been read. -/
  input : List Text
  printed : Text := []

inductive Stop
  | exit (code : Nat)
  /-- The input ended before a question was answered. -/
  | unanswered
  | fault (fault : Fault)
  deriving DecidableEq

abbrev Activity (α : Type) := ExceptT Stop (StateM Session) α

/-- A fault ends the call. -/
def orStop {α : Type} : Except Fault α → Activity α
  | .ok a => pure a
  | .error fault => throw (.fault fault)

/-- Prints text as it is. -/
def printText (t : Text) : Activity Unit := modify fun s => { s with printed := s.printed ++ t }

def printLine (t : Text) : Activity Unit := printText (t ++ ['\n'])

def printLines : List Text → Activity Unit
  | [] => pure ()
  | t :: ts => do
    printLine t
    printLines ts

/-- Prints marked text, in lines as wide as the terminal. -/
def printMarked (t : Text) : Activity Unit := do
  let shown ← orStop (Terminal.shown t)
  printLines (Terminal.lines (← get).columns shown)

/-- Tells in red what is wrong and ends the call. -/
def failWith {α : Type} (problem : Text) : Activity α := do
  printMarked ("[red]✘ ".toList ++ problem ++ "[/red]".toList)
  throw (.exit 1)

def today : Activity Date := return (← get).now.date

/-- Where dates are read from. -/
def standpoint : Activity DateText.Standpoint := return ⟨← today, (← get).base⟩

/-- Is a file or folder of this name where one stands? -/
def isHere (name : Text) : Activity Bool := return (← get).disk.exists? { names := [name] }

/-- Makes a folder and those on the way to it. -/
def makeFolders (p : Path) : Activity Unit := do
  let s ← get
  let (disk, made) := s.disk.makeFolders p
  set { s with disk }
  orStop made

/-- Puts a file where a path leads. -/
def putFile (p : Path) (node : Node Tables) : Activity Unit := do
  let s ← get
  let disk ← orStop (s.disk.putFile p node)
  set { s with disk }

/-- Chooses a folder for the home. -/
def chooseHome (t : Text) : Activity Unit := do
  if t.contains (Char.ofNat 0) then throw (.fault (.unusablePath t .hasNul))
  else modify fun s => { s with surroundings := { s.surroundings with chosen := some t } }

/-- The home in use, its settings, and how much is to be told. -/
structure Context where
  home : Home
  settings : Settings
  verbose : Bool

def settingsPath (home : Home) : Path := home.path.join { names := [settingsName] }

def eventsPath (home : Home) : Path := home.path.join { names := [eventsName] }

/-- What is said of the file of the settings. -/
def noteText (path : Text) : SettingsNote → Text
  | .created => "✅ Created new config file at ".toList ++ path
  | .invalid =>
    "⚠️ Config error in ".toList ++ path ++ ": not usable as settings\nUsing defaults.".toList
  | .updated => "✅ Updated ".toList ++ path ++ " with any missing defaults.".toList
  | .written => "✅ Config with comments written to: ".toList ++ path

def loadSettings (home : Home) : Activity Settings := do
  let path := settingsPath home
  let text := home.childText settingsName
  let disk := (← get).disk
  if (disk.exists? path) && (disk.text? path).isNone then throw (.fault (.unusablePath text .isFolder))
  let loaded ← orStop (Settings.load (disk.text? path))
  putFile path (.text loaded.text)
  printLines (loaded.notes.map (noteText text))
  return loaded.settings

/-- Finds the home, makes what is missing in it, and loads the settings. -/
def openHome (verbose : Bool) : Activity Context := do
  let hasSettings ← isHere settingsName
  let hasEvents ← isHere eventsName
  let home ← orStop (Home.find (← get).surroundings hasSettings hasEvents)
  makeFolders home.path
  unless (← get).disk.exists? (settingsPath home) do
    putFile (settingsPath home) (.text (← orStop Settings.default.write))
    printLine (noteText (home.childText settingsName) .written)
  unless (← get).disk.exists? (eventsPath home) do
    printMarked ("[yellow]⚠️ [/yellow]Database not found. Creating new database at ".toList
      ++ home.childText eventsName)
    let _ ← loadSettings home
    putFile (eventsPath home) (.other {})
  return { home, settings := ← loadSettings home, verbose }

/-- Writes an entry into the journal, if one is kept; if that fails the entry is printed. -/
def journal (c : Context) (now : Moment) (caller message : Text) : Activity Unit := do
  if c.settings.journal then
    let hasSettings ← isHere settingsName
    let hasEvents ← isHere eventsName
    let s ← get
    let home ← orStop (Home.forJournal s.surroundings hasSettings hasEvents)
    let (disk, shown) := Journal.write s.disk home true now s.columns { caller, message }
    set { s with disk }
    printText (← orStop shown)

def journalNotes (c : Context) : List StoreNote → Activity Unit
  | [] => pure ()
  | n :: ns => do
    journal c n.now n.caller n.message
    journalNotes c ns

/-- The tables of a home, as they were last kept. -/
def storedTables (home : Home) : Activity Tables := do
  match (← get).disk.at? (eventsPath home) with
  | none => return {}
  | some (.other tables) => return tables
  | some _ => throw (.fault (@Fault.storeUnavailable .notOpened))

/-- Acts on the store of the home. What was committed is kept, whatever the action comes to. -/
def withStore {α : Type} (c : Context) (action : Conditions → StoreAction α) :
    Activity (Except Fault α) := do
  let tables ← storedTables c.home
  let s ← get
  let conditions : Conditions := {
    now := s.now
    base := s.base
    queryLimit := c.settings.queryLimit
    horizonYears := c.settings.horizonYears }
  let (result, store) := (action conditions).run { committed := tables, tables }
  putFile (eventsPath c.home) (.other store.committed)
  journalNotes c store.notes.reverse
  return result

end Recurrence.CommandLine
