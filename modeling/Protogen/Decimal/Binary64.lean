/-!
# Binary floating-point numbers

The numbers of the 64-bit binary format as exact values: a mantissa below 2^53 times a power of
two that is at least 2^-1074.

* `Binary64.ofDecimal` rounds `digits * 10^exponent` to the nearest such number, a tie going to
  the even mantissa.
* `Binary64.truncate` drops the fraction.
* `Binary64.nearestWhole` is the nearest whole number that has this format.
-/

set_option autoImplicit false

namespace Protogen

/-- A number of the 64-bit binary format. -/
inductive Binary64
  /-- `mantissa * 2^exponent`, with its sign -/
  | finite (negative : Bool) (mantissa : Nat) (exponent : Int)
  | infinite (negative : Bool)
  | notANumber
  deriving DecidableEq, Repr

namespace Binary64

/-- The quotient rounded to the nearest whole number, a tie going to the even one. -/
def roundDiv (num den : Nat) : Nat :=
  let q := num / den
  let twice := 2 * (num % den)
  if twice < den then q
  else if den < twice then q + 1
  else if q % 2 == 0 then q else q + 1

/-- The smallest exponent of a number. -/
def minExponent : Int := -1074

/-- The largest exponent of a number. -/
def maxExponent : Int := 971

/-- `num / den * 2^-exponent` as a fraction. -/
def scaled (num den : Nat) (exponent : Int) : Nat × Nat :=
  if 0 ≤ exponent then (num, den * Nat.pow 2 exponent.toNat)
  else (num * Nat.pow 2 (-exponent).toNat, den)

/-- The number nearest to the positive fraction `num / den`. -/
def ofFraction (negative : Bool) (num den : Nat) : Binary64 :=
  let low : Int := (num.log2 : Int) - den.log2 - 53
  let (n, d) := scaled num den low
  let exponent := max minExponent (if n < d * Nat.pow 2 53 then low else low + 1)
  let (n, d) := scaled num den exponent
  let q := roundDiv n d
  let (q, exponent) := if q == Nat.pow 2 53 then (Nat.pow 2 52, exponent + 1)
    else (q, exponent)
  if maxExponent < exponent then .infinite negative else .finite negative q exponent

/-- The number nearest to `digits * 10^exponent`. -/
def ofDecimal (negative : Bool) (digits : Nat) (exponent : Int) : Binary64 :=
  let size : Int := (Nat.toDigits 10 digits).length + exponent
  if digits == 0 || size < -400 then .finite negative 0 minExponent
  else if 400 < size then .infinite negative
  else if 0 ≤ exponent then ofFraction negative (digits * Nat.pow 10 exponent.toNat) 1
  else ofFraction negative digits (Nat.pow 10 (-exponent).toNat)

/-- The whole number left when the fraction is dropped; none for infinity and no number. -/
def truncate : Binary64 → Option Int
  | .finite negative mantissa exponent =>
    let (n, d) := scaled mantissa 1 (-exponent)
    let whole : Int := n / d
    some (if negative then -whole else whole)
  | _ => none

/-- The whole number that is nearest to another one in this format; a number that is too large for
the format stays. -/
def nearestWhole (n : Nat) : Nat :=
  match (ofDecimal false n 0).truncate with
  | some whole => whole.toNat
  | none => n

/-- Whether the number is zero, of either sign. -/
def isZero : Binary64 → Bool
  | .finite _ mantissa _ => mantissa == 0
  | _ => false

end Binary64

end Protogen
