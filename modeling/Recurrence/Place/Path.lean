import Recurrence.Fault

/-! Paths to files: names between slashes, from a root or from where one stands. Empty names and
single full stops leave no trace; two full stops stay. -/

namespace Recurrence

structure Path where
  /-- Nothing, one slash, or exactly two. -/
  root : Text := []
  names : List Text
  deriving DecidableEq

namespace Path

/-- The folder one stands in. -/
def here : Path := { names := [] }

def ofText (t : Text) : Path :=
  let slashes := (t.takeWhile (· == '/')).length
  { root := if slashes = 0 then [] else if slashes = 2 then ['/', '/'] else ['/']
    names := (Text.pieces '/' t).filter fun n => !n.isEmpty && n != ['.'] }

def isAbsolute (p : Path) : Bool := !p.root.isEmpty

/-- The second path as seen from the first; one with a root is seen from nowhere. -/
def join (p q : Path) : Path :=
  if q.isAbsolute then q else { p with names := p.names ++ q.names }

def text (p : Path) : Text :=
  let t := p.root ++ Text.joined ['/'] p.names
  if t.isEmpty then ['.'] else t

/-- The path to the folder above; a root has none, and where one stands is taken for its own. -/
def above (p : Path) : Path := { p with names := p.names.dropLast }

/-- The path with a tilde in front replaced by the folder of the user, or of the one whose name
follows the tilde. The folder must not begin with a tilde itself. -/
def expandUser (userFolder : Option Text) (others : List (Text × Text)) (p : Path) :
    Except Fault Path :=
  match p.isAbsolute, p.names with
  | false, ('~' :: user) :: rest =>
    match if user.isEmpty then userFolder else others.lookup user with
    | some folder =>
      let folder := folder.trimRight (· == '/')
      if folder.head? = some '~' then .error .userFolderUnknown
      else .ok ((ofText (if folder.isEmpty then ['/'] else folder)).join { names := rest })
    | none => .error .userFolderUnknown
  | _, _ => .ok p

end Path

end Recurrence
