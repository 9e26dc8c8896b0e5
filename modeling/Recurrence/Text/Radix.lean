import Recurrence.Text.Basic

/-! Digits of other bases than ten, and the number a run of digits stands for. -/

namespace Recurrence

/-- The number whose digits to a base these are; letters of either case stand for ten and more. -/
def digitsTo (base : Nat) (ds : Text) : Nat :=
  ds.foldl
    (fun n c =>
      n * base + (if c.isDigit then c.toNat - 48 else if c.isUpper then c.toNat - 55 else c.toNat - 87))
    0

def isHexDigit (c : Char) : Bool :=
  c.isDigit || (decide ('a' ≤ c) && decide (c ≤ 'f')) || (decide ('A' ≤ c) && decide (c ≤ 'F'))

def isOctalDigit (c : Char) : Bool := decide ('0' ≤ c) && decide (c ≤ '7')

def isBinaryDigit (c : Char) : Bool := c == '0' || c == '1'

end Recurrence
