import Recurrence.Terminal.Action.Problem

/-! Forms of expressions, as far as it takes to tell which of them are plain values: numbers, quoted
texts, a few words, and collections of plain values. Keys and members of sets must not be sets or
tables themselves. -/

namespace Recurrence.Terminal

inductive Form
  | number (imaginary : Bool)
  | quoted
  /-- A word that is a value: truth, falsehood, nothing. -/
  | constant (word : Text)
  | dots
  | name (name : Text)
  | tuple (items : List Form)
  | set (items : List Form)
  /-- An entry without a key spreads another table. -/
  | table (entries : List (Option Form × Form))
  /-- A plus or minus before something. -/
  | signed (of : Form)
  | sum (left right : Form)
  /-- A call, and whether nothing is handed to it. -/
  | call (function : Form) (bare : Bool)
  | other (title : Text)

namespace Form

/-- What messages call a form. -/
def title : Form → Text
  | number _ | quoted => "literal".toList
  | constant word => word
  | dots => "ellipsis".toList
  | name _ => "name".toList
  | tuple _ => "tuple".toList
  | set _ => "set display".toList
  | table _ => "dict literal".toList
  | signed _ | sum _ _ => "expression".toList
  | call _ _ => "function call".toList
  | other title => title

/-- A number, perhaps with a sign, that is not imaginary. -/
def isReal : Form → Bool
  | number imaginary | signed (number imaginary) => !imaginary
  | _ => false

/-- The kind of a value that cannot be a key or stand in a set. -/
abbrev Unfit := Option Text

/-- Refuses an unfit value. -/
def fit : Unfit → Except ValueProblem Unit
  | none => .ok ()
  | some kind => .error (.notAKey kind)

mutual

/-- Refuses what is no plain value; of one that is, tells whether it is unfit to be a key. -/
def check : Form → Except ValueProblem Unfit
  | number _ | quoted | constant _ | dots | signed (number _) => .ok none
  | tuple items => checkItems items
  | set items => (checkMembers items).map fun _ => some "set".toList
  | table entries => (checkEntries entries).map fun _ => some "dict".toList
  | sum left (number true) => if left.isReal then .ok none else .error .notPlain
  | call (name f) true =>
    if f = "set".toList then .ok (some "set".toList) else .error .notPlain
  | _ => .error .notPlain

/-- A tuple is as unfit as the first of its items that is. -/
def checkItems : List Form → Except ValueProblem Unfit
  | [] => .ok none
  | item :: rest => do
    let unfit ← check item
    let others ← checkItems rest
    return unfit.or others

def checkMembers : List Form → Except ValueProblem Unit
  | [] => .ok ()
  | item :: rest => do
    fit (← check item)
    checkMembers rest

def checkEntries : List (Option Form × Form) → Except ValueProblem Unit
  | [] => .ok ()
  | (none, _) :: _ => .error .entryWithoutKey
  | (some key, value) :: rest => do
    let unfit ← check key
    let _ ← check value
    fit unfit
    checkEntries rest

end

end Form

end Recurrence.Terminal
