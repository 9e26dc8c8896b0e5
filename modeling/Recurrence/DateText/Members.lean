import Recurrence.DateText.Token
import Recurrence.Calendar.Date

/-! The numbers of a date in the order they were written, and which of them is the year, the
month and the day. A year is known by its digits, a month by its name; the rest is settled by
size, the year coming first where that is possible. -/

namespace Recurrence.DateText

structure Members where
  values : List Nat := []
  yearAt : Option Nat := none
  monthAt : Option Nat := none
  /-- Some year was written with its century. -/
  hasCentury : Bool := false

/-- What a number is said to be. -/
inductive Label
  | unknown | year | month
  deriving DecidableEq

namespace Members

/-- Adds a number. One that is wide, by its digits or its size, is a year and nothing else. -/
def add? (ms : Members) (value : Nat) (wide : Bool) (label : Label) : Option Members :=
  let label' := if wide then Label.year else label
  if wide && label == .month then none
  else
    let ms := { ms with values := ms.values ++ [value], hasCentury := ms.hasCentury || wide }
    let place := ms.values.length - 1
    match label' with
    | .unknown => some ms
    | .year => if ms.yearAt.isSome then none else some { ms with yearAt := some place }
    | .month => if ms.monthAt.isSome then none else some { ms with monthAt := some place }

/-- Adds a token of digits; more than two make it a year. -/
def addToken? (ms : Members) (token : Text) (label : Label) : Option Members :=
  match digitsValue? token with
  | some n => ms.add? n (decide (2 < token.length)) label
  | none => none

/-- Adds the whole part of a number; above one hundred it is a year. -/
def addNumeral? (ms : Members) (n : Numeral) : Option Members :=
  ms.add? n.whole (decide (100 < n.whole) || (n.whole == 100 && n.fraction != 0)) .unknown

def addMonth? (ms : Members) (month : Nat) : Option Members := ms.add? month false .month

/-- Could the number be the day of the month? -/
def couldBeDay (ms : Members) (n : Numeral) : Bool :=
  let last :=
    match ms.monthAt with
    | none => 31
    | some place =>
      let month := ms.values.getD place 0
      match ms.yearAt with
      | none => daysInMonth 2000 month
      | some place => daysInMonth (ms.values.getD place 0) month
  decide (1 ≤ n.whole) && (decide (n.whole < last) || (n.whole == last && n.fraction == 0))

/-- Year, month and day, as far as they are given. -/
structure Parts where
  year : Option Nat := none
  month : Option Nat := none
  day : Option Nat := none

/-- Which number is which, where the third of three is all that is left to infer. -/
def three (a b c : Nat) (yearAt monthAt : Option Nat) : Parts :=
  match yearAt, monthAt with
  | some 0, some 1 => ⟨some a, some b, some c⟩
  | some 0, some 2 => ⟨some a, some c, some b⟩
  | some 1, some 0 => ⟨some b, some a, some c⟩
  | some 1, some 2 => ⟨some b, some c, some a⟩
  | some 2, some 0 => ⟨some c, some a, some b⟩
  | some 2, some 1 => ⟨some c, some b, some a⟩
  | _, some 0 => if 31 < b then ⟨some b, some a, some c⟩ else ⟨some c, some a, some b⟩
  | _, some 1 => if 31 < a ∨ c ≤ 31 then ⟨some a, some b, some c⟩ else ⟨some c, some b, some a⟩
  | _, some _ => if 31 < b then ⟨some b, some c, some a⟩ else ⟨some a, some c, some b⟩
  | year?, none =>
    if 31 < a ∨ year? = some 0 ∨ (b ≤ 12 ∧ c ≤ 31) then ⟨some a, some b, some c⟩
    else if 12 < a then ⟨some c, some b, some a⟩
    else ⟨some c, some a, some b⟩

/-- Which number is which; `none` for more than three. -/
def resolve? (ms : Members) : Option Parts :=
  match ms.values with
  | [] => some {}
  | [a] =>
    match ms.yearAt, ms.monthAt with
    | some _, _ => some ⟨some a, none, none⟩
    | _, some _ => some ⟨none, some a, none⟩
    | none, none => some (if 31 < a then ⟨some a, none, none⟩ else ⟨none, none, some a⟩)
  | [a, b] =>
    match ms.yearAt, ms.monthAt with
    | some y, some m => some ⟨[a, b][y]?, [a, b][m]?, none⟩
    | _, some m =>
      let month := if m = 0 then a else b
      let other := if m = 0 then b else a
      some (if 31 < other then ⟨some other, some month, none⟩ else ⟨none, some month, some other⟩)
    | _, none =>
      some
        (if 31 < a then ⟨some a, some b, none⟩
        else if 31 < b then ⟨some b, some a, none⟩
        else ⟨none, some a, some b⟩)
  | [a, b, c] => some (three a b c ms.yearAt ms.monthAt)
  | _ => none

end Members

end Recurrence.DateText
