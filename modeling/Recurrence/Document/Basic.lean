import Recurrence.Fault
import Recurrence.Rounding

/-! Values of a settings document: scalars, lists, and tables of named values in the order they
were written. Numbers with a fraction are kept to 53 binary digits. -/

namespace Recurrence

/-- A number with 53 binary digits. -/
inductive FloatValue
  /-- `significand` times two to the `exponent`. -/
  | finite (negative : Bool) (significand : Nat) (exponent : Int)
  | infinite
  | notANumber

namespace FloatValue

/-- The number nearest to `m` times ten to the `e`. -/
def nearest (negative : Bool) (m : Nat) (e : Int) : FloatValue :=
  let digits : Int := (decimal m).length
  if m = 0 ∨ digits + e < -330 then finite negative 0 0
  else if 310 < digits + e then infinite
  else
    let num := m * Nat.pow 10 e.toNat
    let den := Nat.pow 10 (-e).toNat
    let guess := (num.log2 : Int) - den.log2
    let magnitude :=
      if num * Nat.pow 2 (-guess).toNat < den * Nat.pow 2 guess.toNat then guess - 1 else guess
    let exponent := max (magnitude - 52) (-1074)
    let significand :=
      roundedQuotient (num * Nat.pow 2 (-exponent).toNat) (den * Nat.pow 2 exponent.toNat)
    if 0 ≤ exponent ∧ Nat.pow 2 1024 ≤ significand * Nat.pow 2 exponent.toNat then infinite
    else finite negative significand exponent

/-- The value of a number without a fraction. -/
def integer? : FloatValue → Option Int
  | finite negative s e =>
    let n := s * Nat.pow 2 e.toNat
    let d := Nat.pow 2 (-e).toNat
    if n % d = 0 then some (if negative then -((n / d : Nat) : Int) else ((n / d : Nat) : Int))
    else none
  | infinite => none
  | notANumber => none

end FloatValue

inductive Value
  | nothing
  | flag (value : Bool)
  | integer (value : Int)
  | float (value : FloatValue)
  | text (value : Text)
  /-- A date, a time or both. -/
  | time
  | list (items : List Value)
  | table (entries : List (Text × Value))

/-- Named values, in the order they were written. -/
abbrev Table := List (Text × Value)

namespace Table

def get? (t : Table) (name : Text) : Option Value := (t.find? fun e => e.1 == name).map Prod.snd

/-- Sets a value, in the place of the one of its name if there is one. -/
def set (t : Table) (name : Text) (value : Value) : Table :=
  if (t.get? name).isSome then t.map fun e => if e.1 == name then (name, value) else e
  else t ++ [(name, value)]

/-- Changes the table that a row of names leads to; tables on the way that are missing are made,
and of a list of tables the last is entered if `enterLists` says so. -/
def updateAt? (enterLists : Bool) (change : Table → Option Table) : List Text → Table → Option Table
  | [], t => change t
  | name :: names, t =>
    match t.get? name with
    | none => (updateAt? enterLists change names []).map fun sub => t.set name (.table sub)
    | some (.table sub) =>
      (updateAt? enterLists change names sub).map fun sub => t.set name (.table sub)
    | some (.list items) =>
      match enterLists, items.getLast? with
      | true, some (.table sub) =>
        (updateAt? enterLists change names sub).map fun sub =>
          t.set name (.list (items.dropLast ++ [.table sub]))
      | _, _ => none
    | some _ => none

/-- Adds a value under a name that is not taken. -/
def add? (name : Text) (value : Value) (t : Table) : Option Table :=
  if (t.get? name).isSome then none else some (t ++ [(name, value)])

/-- Adds an empty table to the list of tables under a name. -/
def addToList? (name : Text) (t : Table) : Option Table :=
  match t.get? name with
  | none => some (t ++ [(name, .list [.table []])])
  | some (.list items) => some (t.set name (.list (items ++ [.table []])))
  | some _ => none

end Table

end Recurrence
