import Recurrence.Place.Path

/-! Where the settings, the events and the journal are kept. -/

namespace Recurrence

/-- What the surroundings say about folders. -/
structure Surroundings where
  /-- The folder that was chosen for the program. -/
  chosen : Option Text := none
  /-- The folder for the settings of programs. -/
  configFolder : Option Text := none
  /-- The folder of the user. -/
  userFolder : Option Text := none
  /-- The folders of other users, by their names. -/
  otherFolders : List (Text × Text) := [("root".toList, "/root".toList)]

def settingsName : Text := "config.toml".toList

def eventsName : Text := "rrkit.db".toList

def journalName : Text := "logs".toList

inductive Home
  /-- The folder one stands in. -/
  | here
  | folder (path : Path)
  deriving DecidableEq

namespace Home

def path : Home → Path
  | here => Path.here
  | folder p => p

def text : Home → Text
  | here => ['.']
  | folder p => p.text

/-- A file or folder of the home, as messages show it. -/
def childText (name : Text) : Home → Text
  | here => '.' :: '/' :: name
  | folder p => (p.join { names := [name] }).text

/-- A text that is set to something. -/
def given (t : Option Text) : Option Text := t.filter fun t => !t.isEmpty

/-- The path in a text, with a tilde in front replaced. -/
def pathOf (s : Surroundings) (t : Text) : Except Fault Path :=
  (Path.ofText t).expandUser s.userFolder s.otherFolders

/-- The folder one stands in if it holds the settings and the events; else the chosen folder,
or one in the folder for settings, or one in the user's. -/
def find (s : Surroundings) (hasSettings hasEvents : Bool) : Except Fault Home :=
  if hasSettings && hasEvents then .ok here
  else
    match given s.chosen, given s.configFolder with
    | some t, _ => (pathOf s t).map folder
    | none, some t => (pathOf s t).map fun p => folder (p.join { names := ["rrkit".toList] })
    | none, none =>
      (pathOf s ['~']).map fun p => folder (p.join { names := [".config".toList, "rrkit".toList] })

/-- The home of the journal: the chosen folder wherever there is one. -/
def forJournal (s : Surroundings) (hasSettings hasEvents : Bool) : Except Fault Home :=
  find s (hasSettings && (given s.chosen).isNone) hasEvents

end Home

end Recurrence
