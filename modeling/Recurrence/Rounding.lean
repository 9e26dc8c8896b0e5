/-! Quotients rounded to the nearest integer. -/

namespace Recurrence

/-- The quotient rounded to the nearest integer, a half to the even one. -/
def roundedQuotient (a b : Nat) : Nat :=
  let q := a / b
  let twice := 2 * (a % b)
  if twice < b ∨ (twice = b ∧ q % 2 = 0) then q else q + 1

end Recurrence
