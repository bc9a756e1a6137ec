import Protogen.Decimal.Binary64

/-!
# Shortest decimal text of a number

A finite number is written with the fewest digits that read back as the same number; of several
such decimals the nearest is taken. Numbers from 10^-4 up to below 10^16 are written
positionally, always with a digit after the point; all others with an exponent of at least two
digits.

* `shortest` finds digits and exponent in exact arithmetic.
* `Binary64.text` lays them out.
-/

set_option autoImplicit false

namespace Protogen.Decimal

/-- The number of decimal digits before the point of the positive fraction `num / den`: the
least `p` with `num / den < 10^p`, searched upwards from `p` for at most `fuel` steps. -/
def pointFrom (num den : Nat) : Nat → Int → Int
  | 0, p => p
  | fuel + 1, p =>
    let below := if 0 ≤ p then num < den * Nat.pow 10 p.toNat
      else num * Nat.pow 10 (-p).toNat < den
    if below then p else pointFrom num den fuel (p + 1)

/-- Whether the distance between the fractions `a / b` and `c / d` is at most (below, if
`strict`) the fraction `r / s`. -/
def within (strict : Bool) (a b c d r s : Nat) : Bool :=
  let x := a * d
  let y := c * b
  let gap := if x < y then y - x else x - y
  if strict then gap * s < r * (b * d) else gap * s ≤ r * (b * d)

/-- Digits and point of the first grid, from `n` digits on, with a point that reads back. -/
def searchFrom (num den : Nat) (below above : Nat × Nat) (strict : Bool) (point : Int) :
    Nat → Nat → Nat × Int
  | 0, n => (num / den, n)
  | fuel + 1, n =>
    let step := point - n
    -- the value in units of the grid
    let (u, v) := if 0 ≤ step then (num, den * Nat.pow 10 step.toNat)
      else (num * Nat.pow 10 (-step).toNat, den)
    let lo := u / v
    let grid (k : Nat) : Nat × Nat :=
      if 0 ≤ step then (k * Nat.pow 10 step.toNat, 1) else (k, Nat.pow 10 (-step).toNat)
    let reads (k : Nat) : Bool :=
      let g := grid k
      let gap := if k == lo then below else above
      within strict g.1 g.2 num den gap.1 gap.2
    match reads lo, reads (lo + 1) with
    | true, true =>
      let twice := 2 * (u % v)
      (if twice < v || (twice == v && lo % 2 == 0) then lo else lo + 1, step)
    | true, false => (lo, step)
    | false, true => (lo + 1, step)
    | false, false => searchFrom num den below above strict point fuel (n + 1)

/-- The fewest digits `k`, with their exponent `e`, such that `k * 10^e` reads back as
`mantissa * 2^exponent`. -/
def shortest (mantissa : Nat) (exponent : Int) : Nat × Int :=
  let (num, den) := Binary64.scaled mantissa 1 (-exponent)
  let half (e : Int) : Nat × Nat :=
    if 0 < e then (Nat.pow 2 (e - 1).toNat, 1) else (1, Nat.pow 2 (1 - e).toNat)
  let above := half exponent
  let below := if mantissa == Nat.pow 2 52 && Binary64.minExponent < exponent
    then half (exponent - 1) else above
  let point := pointFrom num den 700 (-330)
  searchFrom num den below above (mantissa % 2 == 1) point 17 1

/-- Digits without the zeros at their end, each of which raises the exponent by one. -/
def dropZeros : Nat → Nat → Int → Nat × Int
  | 0, k, e => (k, e)
  | fuel + 1, k, e => if k != 0 && k % 10 == 0 then dropZeros fuel (k / 10) (e + 1) else (k, e)

/-- Digits and exponent as text. -/
def layOut (k : Nat) (e : Int) : List Char :=
  let digits := Nat.toDigits 10 k
  let point : Int := digits.length + e
  if -4 < point && point ≤ 16 then
    if point ≤ 0 then '0' :: '.' :: (List.replicate (-point).toNat '0' ++ digits)
    else
      let whole := digits.take point.toNat
      let fraction := digits.drop point.toNat
      whole ++ List.replicate (point.toNat - digits.length) '0' ++
        '.' :: (if fraction.isEmpty then ['0'] else fraction)
  else
    let exponent := point - 1
    let shown := Nat.toDigits 10 exponent.natAbs
    digits.take 1 ++ (if digits.length == 1 then [] else '.' :: digits.drop 1) ++
      'e' :: (if exponent < 0 then '-' else '+') ::
        ((if shown.length < 2 then ['0'] else []) ++ shown)

end Protogen.Decimal

namespace Protogen

/-- The text of a number. -/
def Binary64.text : Binary64 → String
  | .finite negative mantissa exponent =>
    let body := if mantissa == 0 then ['0', '.', '0'] else
      let (k, e) := Decimal.shortest mantissa exponent
      let (k, e) := Decimal.dropZeros 20 k e
      Decimal.layOut k e
    String.ofList (if negative then '-' :: body else body)
  | .infinite negative => if negative then "-inf" else "inf"
  | .notANumber => "nan"

end Protogen
