import Recurrence.Settings.Check
import Recurrence.Document.Reading
import Recurrence.Place.Disk
import Recurrence.Place.Home

/-! The file of the settings in the home. Loading makes the file if it is missing, falls back to
the defaults if it cannot be used, and always leaves it as the settings are written. -/

namespace Recurrence

/-- What is reported while settings are loaded or written. -/
inductive SettingsNote
  | created | invalid | updated | written
  deriving DecidableEq

def SettingsNote.code : SettingsNote → Text
  | created => "created".toList
  | invalid => "error".toList
  | updated => "updated".toList
  | written => "written".toList

/-- Every kind of line end is a line feed. -/
def withLineFeeds (t : Text) : Text :=
  (Text.replace ['\r', '\n'] ['\n'] t).map fun c => if c = '\r' then '\n' else c

namespace Settings

/-- The settings in a document; none if it is malformed or some value does not fit. -/
def ofText (t : Text) : Except Fault (Option Settings) :=
  match Document.read t with
  | .error .malformed => .ok none
  | .error (.fault fault) => .error fault
  | .ok table => .ok (ofTable table).toOption

/-- Settings that were loaded, the text of their file, and what was reported. -/
structure Loaded where
  settings : Settings
  text : Text
  notes : List SettingsNote

/-- Loads the settings from their file's text, if there is a file. -/
def load (file : Option Text) : Except Fault Loaded :=
  match file with
  | none => default.write.map fun text => ⟨default, text, [.created]⟩
  | some old =>
    match ofText old with
    | .error fault => .error fault
    | .ok read =>
      let settings := read.getD default
      settings.write.map fun text =>
        ⟨settings, if text = withLineFeeds old then old else text,
          (if read.isNone then [.invalid] else []) ++
            (if text = withLineFeeds old then [] else [.updated])⟩

end Settings

/-- The settings of a home in use: they are loaded once and kept until they are loaded again. -/
structure Workspace where
  /-- Where the file of the settings belongs. -/
  path : Path
  /-- The folder of the home is there. -/
  hasFolder : Bool := false
  file : Option Text := none
  kept : Option Settings := none

namespace Workspace

/-- Forgets the settings that were kept. -/
def renew (w : Workspace) : Workspace := { w with kept := none }

def load (w : Workspace) : Except Fault (Workspace × Settings × List SettingsNote) :=
  (Settings.load w.file).map fun l =>
    ({ w with hasFolder := true, file := some l.text, kept := some l.settings }, l.settings, l.notes)

/-- The settings kept, or else loaded. -/
def settings (w : Workspace) : Except Fault (Workspace × Settings × List SettingsNote) :=
  match w.kept with
  | some s => .ok (w, s, [])
  | none => w.load

/-- Makes the folder and, if asked to, a file of the default settings where none is. -/
def ensure (w : Workspace) (withFile : Bool) : Except Fault (Workspace × List SettingsNote) :=
  let w := { w with hasFolder := true }
  if withFile && w.file.isNone then
    Settings.default.write.map fun text => ({ w with file := some text }, [.written])
  else .ok (w, [])

/-- Writes settings into the file; its folder must be there. -/
def save (w : Workspace) (s : Settings) : Except Fault (Workspace × List SettingsNote) :=
  match s.write with
  | .error fault => .error fault
  | .ok text =>
    if w.hasFolder then .ok ({ w with file := some text }, [.written])
    else .error (.unusablePath w.path.text .missing)

def write (w : Workspace) (text : Text) : Workspace := { w with hasFolder := true, file := some text }

/-- Deletes the file, which must be there. -/
def remove (w : Workspace) : Except Fault Workspace :=
  if w.file.isSome then .ok { w with file := none } else .error (.unusablePath w.path.text .missing)

end Workspace

end Recurrence
