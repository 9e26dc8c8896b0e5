import Recurrence.Place.Path

/-! Folders and files. A file holds text, or content of another kind. A path is followed name by
name, and what is met first tells why it leads nowhere. -/

namespace Recurrence

inductive Node (α : Type)
  | folder
  | text (content : Text)
  | other (content : α)
  deriving DecidableEq

/-- A node is known by the names on the way to it from where one stands. -/
structure Disk (α : Type) where
  nodes : List (List Text × Node α) := []

namespace Disk

variable {α : Type}

/-- Where a name leads from a place. -/
def enter (place : List Text) (name : Text) : List Text :=
  if name = ['.', '.'] then
    match place.getLast? with
    | none => [name]
    | some last =>
      if last = name then place ++ [name] else if last.head? = some '/' then place else place.dropLast
  else place ++ [name]

/-- Places that are folders without having been made: where one stands, above it, and the root. -/
def isGiven (place : List Text) : Bool := place.all fun n => n == ['.', '.'] || n == ['/']

def node? (d : Disk α) (place : List Text) : Option (Node α) :=
  if isGiven place then some .folder else (d.nodes.find? fun n => n.1 == place).map Prod.snd

def setNode (d : Disk α) (place : List Text) (node : Node α) : Disk α :=
  if (d.nodes.find? fun n => n.1 == place).isSome then
    ⟨d.nodes.map fun n => if n.1 == place then (place, node) else n⟩
  else ⟨d.nodes ++ [(place, node)]⟩

/-- A name has at most 255 bytes. -/
def isNameTooLong (name : Text) : Bool := decide (255 < name.bytes)

/-- A path has less than 4096 bytes, and no character is NUL. -/
def checkPath (p : Path) : Except PathProblem Unit :=
  if p.text.contains (Char.ofNat 0) then .error .hasNul
  else if 4095 < p.text.bytes then .error .tooLong
  else .ok ()

/-- The folder that a name leads to from a place. -/
def folderIn (d : Disk α) (place : List Text) (name : Text) : Except PathProblem (List Text) :=
  if isNameTooLong name then .error .tooLong
  else
    match d.node? (enter place name) with
    | some .folder => .ok (enter place name)
    | some _ => .error .notAFolder
    | none => .error .missing

/-- The place that names lead to: all but the last lead to folders. -/
def placeFrom (d : Disk α) : (place names : List Text) → Except PathProblem (List Text)
  | place, [] => .ok place
  | place, [name] => if isNameTooLong name then .error .tooLong else .ok (enter place name)
  | place, name :: next :: names => do
    let folder ← d.folderIn place name
    d.placeFrom folder (next :: names)

/-- The place a path leads to, whether something is there or not. -/
def placeOf (d : Disk α) (p : Path) : Except PathProblem (List Text) := do
  checkPath p
  d.placeFrom (if p.isAbsolute then [['/']] else []) p.names

/-- What is at a path. -/
def at? (d : Disk α) (p : Path) : Option (Node α) := (d.placeOf p).toOption.bind d.node?

def exists? (d : Disk α) (p : Path) : Bool := (d.at? p).isSome

def isFolder (d : Disk α) (p : Path) : Bool :=
  match d.at? p with
  | some .folder => true
  | _ => false

/-- The text of a file; none if there is no such file. -/
def text? (d : Disk α) (p : Path) : Option Text :=
  match d.at? p with
  | some (.text t) => some t
  | _ => none

/-- Makes a folder where nothing is yet. -/
def makeFolder (d : Disk α) (p : Path) : Except PathProblem (Disk α) := do
  let place ← d.placeOf p
  if (d.node? place).isSome then .error .taken else .ok (d.setNode place .folder)

/-- Makes a folder unless it is there already. A problem is told with the path it arose at. -/
def ensureFolder (d : Disk α) (p : Path) : Except Fault (Disk α) :=
  match d.makeFolder p with
  | .ok d => .ok d
  | .error problem => if d.isFolder p then .ok d else .error (.unusablePath p.text problem)

/-- Makes a folder and, if something on the way is missing, first the folder above; names are
held backwards. Folders that have been made stay when a later one cannot be made. -/
def makeFoldersFrom (root : Text) : Disk α → (backwards : List Text) → Disk α × Except Fault Unit
  | d, [] =>
    match d.ensureFolder { root, names := [] } with
    | .ok d => (d, .ok ())
    | .error fault => (d, .error fault)
  | d, name :: above =>
    let p : Path := { root, names := (name :: above).reverse }
    let (d, made) :=
      match d.makeFolder p with
      | .error .missing => makeFoldersFrom root d above
      | _ => (d, .ok ())
    match made.bind fun _ => d.ensureFolder p with
    | .ok d => (d, .ok ())
    | .error fault => (d, .error fault)

/-- Makes a folder and those that are missing on the way to it. -/
def makeFolders (d : Disk α) (p : Path) : Disk α × Except Fault Unit :=
  makeFoldersFrom p.root d p.names.reverse

/-- Changes the file at a path, or makes it; its folder must be there. -/
def changeFile (d : Disk α) (p : Path) (change : Option (Node α) → Node α) :
    Except Fault (Disk α) :=
  match d.placeOf p with
  | .error problem => .error (.unusablePath p.text problem)
  | .ok place =>
    match d.node? place with
    | some .folder => .error (.unusablePath p.text .isFolder)
    | old => .ok (d.setNode place (change old))

def putFile (d : Disk α) (p : Path) (node : Node α) : Except Fault (Disk α) :=
  d.changeFile p fun _ => node

/-- Adds text at the end of a file of text. -/
def append (d : Disk α) (p : Path) (t : Text) : Except Fault (Disk α) :=
  d.changeFile p fun old =>
    match old with
    | some (.text before) => .text (before ++ t)
    | some node => node
    | none => .text t

/-- Puts a file at a path, with the folders on the way to it; where that fails all stays as it
was. -/
def withFile (d : Disk α) (p : Path) (node : Node α) : Disk α :=
  match d.makeFolders p.above with
  | (made, .ok ()) => (made.putFile p node).toOption.getD d
  | (_, .error _) => d

end Disk

end Recurrence
