import Recurrence.Fault
import Recurrence.Text.Blank
import Recurrence.Text.Digit

/-! Integers as text: a sign, decimal digits of any script, single underscores between digits,
white space around. No more than 4300 digits are read or written. -/

namespace Recurrence

def digitLimit : Nat := 4300

namespace Integer

/-- White space around a numeral; the information separators do not count. -/
def isSurrounding (c : Char) : Bool := isBlank c && !(decide (28 ≤ c.toNat) && decide (c.toNat ≤ 31))

/-- The values of the leading digits, single underscores between them left out, and the rest;
`none` if underscores stand together, first or last. -/
def leadingDigits? : Bool → Text → Option (List Nat × Text)
  | afterDigit, [] => if afterDigit then some ([], []) else none
  | afterDigit, c :: r =>
    match digitValue? c with
    | some d => (leadingDigits? true r).map fun p => (d :: p.1, p.2)
    | none =>
      if c = '_' then if afterDigit then leadingDigits? false r else none
      else if afterDigit then some ([], c :: r) else none

/-- The number whose decimal digits these are. -/
def ofDigits (ds : List Nat) : Nat := ds.foldl (fun n d => n * 10 + d) 0

/-- The sign and what follows it. -/
def signed : Text → Bool × Text
  | '-' :: r => (true, r)
  | '+' :: r => (false, r)
  | t => (false, t)

def read (t : Text) : Except Fault Int :=
  let (negative, body) := signed (t.trimBoth isSurrounding)
  match leadingDigits? false body with
  | none => .error (.notAnInteger t)
  | some (ds, rest) =>
    if digitLimit < ds.length then .error (.tooManyDigits ds.length)
    else if rest.isEmpty then
      .ok (if negative then -(ofDigits ds : Int) else (ofDigits ds : Int))
    else .error (.notAnInteger t)

/-- The integer in a text, white space of every kind around it ignored. -/
def read? (t : Text) : Option Int := (read t.strip).toOption

/-- The numeral, unless it would be too long. -/
def write (n : Int) : Except Fault Text :=
  if n.natAbs < Nat.pow 10 digitLimit then .ok (decimalInt n) else .error .tooLongToWrite

/-- The numerals of a list, with a comma between each two. -/
def writeAll (sep : Text) (ns : List Int) : Except Fault Text :=
  (ns.mapM write).map (Text.joined sep)

end Integer

end Recurrence
