import Protogen.Decimal.Binary64

/-!
# Significant digits

A whole number is rounded to a number of digits; a half goes to the even neighbour.

* `significant` gives the digits of a number and the power of ten of the first of them.
-/

set_option autoImplicit false

namespace Protogen.Decimal

/-- A number rounded to so many digits, and the power of ten of the first digit. -/
def significant (count n : Nat) : List Char × Nat :=
  let digits := Nat.toDigits 10 n
  if digits.length ≤ count then
    (digits ++ List.replicate (count - digits.length) '0', digits.length - 1)
  else
    let rounded := Binary64.roundDiv n (Nat.pow 10 (digits.length - count))
    if rounded == Nat.pow 10 count then (Nat.toDigits 10 (rounded / 10), digits.length)
    else (Nat.toDigits 10 rounded, digits.length - 1)

end Protogen.Decimal
