import Recurrence.Text.Integer
import Recurrence.Text.Case

/-! Numerals in phrases: decimal digits of any script, the English words up to twelve, and
Chinese numerals, written digit by digit or around the sign for ten. -/

namespace Recurrence.Phrase

/-- The sign for ten. -/
def tenSign : Char := '十'

def chineseDigit? : Char → Option Nat
  | '零' => some 0 | '一' => some 1 | '二' => some 2 | '两' => some 2 | '三' => some 3
  | '四' => some 4 | '五' => some 5 | '六' => some 6 | '七' => some 7 | '八' => some 8
  | '九' => some 9 | _ => none

/-- A Chinese digit or the sign for ten. -/
def isChineseNumeral (c : Char) : Bool := (chineseDigit? c).isSome || c == tenSign

/-- The English number words, from one on. -/
def englishNumbers : List Text :=
  ["one".toList, "two".toList, "three".toList, "four".toList, "five".toList, "six".toList,
   "seven".toList, "eight".toList, "nine".toList, "ten".toList, "eleven".toList,
   "twelve".toList]

def englishNumber? (t : Text) : Option Nat := (englishNumbers.findIdx? (· == t)).map (· + 1)

/-- One side of the sign for ten: nothing at all, or anything but a single digit, has a worth
of its own. -/
def sideOfTen (absent other : Nat) : Text → Nat
  | [] => absent
  | [c] => (chineseDigit? c).getD other
  | _ => other

/-- The worth of a Chinese numeral; `none` if another character is among its signs. -/
def chineseNumber? (t : Text) : Option Nat :=
  if t.isEmpty || !t.all isChineseNumeral then none
  else
    match t.cut? tenSign with
    | none => some (Integer.ofDigits (t.filterMap chineseDigit?))
    | some (tens, ones) => some (sideOfTen 1 1 tens * 10 + sideOfTen 0 0 ones)

/-- The number a token stands for, with white space around it ignored. A token made of digits
only is read as an integer, or fails as one. -/
def number? (t : Text) : Except Fault (Option Int) :=
  let token := t.strip.lower
  if !token.isEmpty && token.all isDigitLike then (Integer.read token).map some
  else .ok (((englishNumber? token).or (chineseNumber? token)).map fun n => (n : Int))

end Recurrence.Phrase
