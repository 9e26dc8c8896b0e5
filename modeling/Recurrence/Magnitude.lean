/-! Sizes of integers: what fits into a word of 64 bits, and into half a word. -/

namespace Recurrence

/-- Two to the 63rd: the first integer beyond a word. -/
def wordLimit : Nat := 9223372036854775808

/-- Two to the 31st: the first integer beyond half a word. -/
def halfWordLimit : Nat := 2147483648

/-- An integer that fits into a word. -/
def fitsWord (n : Int) : Bool := decide (-(wordLimit : Int) ≤ n) && decide (n < wordLimit)

end Recurrence
