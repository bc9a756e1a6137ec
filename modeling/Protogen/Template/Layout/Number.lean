import Protogen.Decimal.Significant
import Protogen.Template.Layout

/-!
# Layouts of numbers

A whole number is written in one of several bases, as a character, or with a point: with so many
places, with so many digits and an exponent, or as a percentage. Its digits may be grouped, and a
sign and a base may stand before them.

* `groupDigits` puts marks between groups of digits.
* `Layout.parts?` gives the parts of the written number, `Layout.join` pads them to the width.
* `layOutNumber` lays a number out.
-/

set_option autoImplicit false

namespace Protogen.Template

/-- The parts of a written number: the base, the digits before the point, and what follows. -/
structure NumberParts where
  base : List Char
  digits : List Char
  tail : List Char
  deriving DecidableEq, Repr

/-- Puts a mark before every group of digits but the first; they are given back to front. -/
def groupBackward (mark : Char) (size : Nat) : Nat → List Char → List Char
  | _, [] => []
  | 0, c :: rest => mark :: c :: groupBackward mark size (size - 1) rest
  | left + 1, c :: rest => c :: groupBackward mark size left rest

/-- Puts a mark between groups of digits. -/
def groupDigits (mark : Char) (size : Nat) (digits : List Char) : List Char :=
  (groupBackward mark size size digits.reverse).reverse

/-- How many digits in groups fill a width; a mark is never the first character. -/
def digitsFilling (size width : Nat) : Nat :=
  if width % (size + 1) == 0 then width / (size + 1) * size + 1 else width - width / (size + 1)

/-- How many digits a group has. -/
def Layout.groupSize (l : Layout) : Nat := if "boxX".toList.contains l.code then 4 else 3

/-- The alignment of a number, which is at the right, behind zeros if there is a zero. -/
def Layout.numberAlign (l : Layout) : Char := l.align.getD (if l.zeroFlag then '=' else '>')

/-- Digits in groups, with zeros before them up to a width. -/
def Layout.spread (l : Layout) (width : Nat) (digits : List Char) : List Char :=
  let pad (count : Nat) := List.replicate (count - digits.length) '0' ++ digits
  match l.grouping with
  | none => pad width
  | some mark => groupDigits mark l.groupSize (pad (digitsFilling l.groupSize width))

/-- A written number from its parts, padded to the width. -/
def Layout.join (l : Layout) (p : NumberParts) : List Char :=
  let sign := (l.sign.filter (· != '-')).toList
  let rest := sign.length + p.base.length + p.tail.length
  let isZeroFilled := l.fillChar == '0' && l.numberAlign == '='
  let digits := if p.digits.isEmpty then []
    else l.spread (if isZeroFilled then l.width - rest else 0) p.digits
  let pad := l.width - (rest + digits.length)
  let number := List.replicate (if l.numberAlign == '=' then pad else 0) l.fillChar ++ digits
  let (left, right) := if l.numberAlign == '=' then (0, 0) else splitPadding l.numberAlign pad
  List.replicate left l.fillChar ++ sign ++ p.base ++ number ++ p.tail
    ++ List.replicate right l.fillChar

/-- A number as a character. -/
def Layout.character? (l : Layout) (n : Nat) : Except Fault NumberParts :=
  if l.sign.isSome then .error .signOfCharacter
  else if l.alternate then .error .alternateOfCharacter
  else if 0x110000 ≤ n then .error .noSuchCharacter
  else .ok ⟨[], [], [Char.ofNat n]⟩

/-- A number in the base that a letter stands for, with the letter for it before the digits. -/
def inBase (alternate : Bool) (letter : Char) (base n : Nat) : NumberParts :=
  ⟨if alternate then ['0', letter] else [], Nat.toDigits base n, []⟩

/-- A number without a point. -/
def Layout.wholeParts? (l : Layout) (n : Nat) : Except Fault NumberParts :=
  if l.precision.isSome then .error .precisionOfWhole
  else if l.zeroSign then .error .zeroSignOfWhole
  else match l.code with
    | 'c' => l.character? n
    | 'b' => .ok (inBase l.alternate 'b' 2 n)
    | 'o' => .ok (inBase l.alternate 'o' 8 n)
    | 'x' => .ok (inBase l.alternate 'x' 16 n)
    | 'X' => .ok ⟨if l.alternate then ['0', 'X'] else [], (Nat.toDigits 16 n).map Char.toUpper, []⟩
    | _ => .ok ⟨[], Nat.toDigits 10 n, []⟩

/-- What follows the digits before the point. -/
def Layout.places (l : Layout) (digits : List Char) : List Char :=
  if digits.isEmpty && !l.alternate then [] else '.' :: digits

/-- Digits with an exponent. -/
def Layout.scientific (l : Layout) (digits : List Char) (exponent : Nat) : NumberParts :=
  let letter := if l.code.isUpper then 'E' else 'e'
  let shown := Nat.toDigits 10 exponent
  let mark := [letter, '+'] ++ List.replicate (2 - shown.length) '0'
  ⟨[], digits.take 1, l.places (digits.drop 1) ++ mark ++ shown⟩

/-- A number with so many places behind the point. -/
def Layout.fixed (l : Layout) (count n : Nat) : NumberParts :=
  ⟨[], Nat.toDigits 10 n, l.places (List.replicate count '0')⟩

/-- A number with so many digits, with an exponent if it has more of them. -/
def Layout.general (l : Layout) (count n : Nat) : NumberParts :=
  let length := (Nat.toDigits 10 n).length
  if length ≤ count then l.fixed (if l.alternate then count - length else 0) n
  else
    let (digits, exponent) := Decimal.significant count n
    l.scientific
      (if l.alternate then digits else (digits.reverse.dropWhile (· == '0')).reverse) exponent

/-- The precision of a number with a point. -/
def usualPrecision : Nat := 6

/-- Precisions of numbers from here on are refused. -/
def precisionLimit : Nat := 2147483648

/-- A number with a point, of which only as many binary digits are kept as `Binary64` has. -/
def Layout.pointParts? (l : Layout) (number : Nat) : Except Fault NumberParts :=
  let n := Binary64.nearestWhole number
  let precision := l.precision.getD usualPrecision
  if precisionLimit ≤ precision then .error .hugePrecision
  else if l.code == 'e' || l.code == 'E' then
    let (digits, exponent) := Decimal.significant (precision + 1) n
    .ok (l.scientific digits exponent)
  else if l.code == 'g' || l.code == 'G' then .ok (l.general (max 1 precision) n)
  else if l.code == '%' then
    let parts := l.fixed precision (Binary64.nearestWhole (100 * n))
    .ok { parts with tail := parts.tail ++ ['%'] }
  else .ok (l.fixed precision n)

/-- The parts of a number, as the letter of a layout wants it. -/
def Layout.parts? (l : Layout) (className : String) (n : Nat) : Except Fault NumberParts :=
  if "bcdoxXn".toList.contains l.code then l.wholeParts? n
  else if "eEfFgG%".toList.contains l.code then l.pointParts? n
  else .error (.unknownLayout l.code className)

/-- Lays a number of a class out as a text spells it; the text is not empty. -/
def layOutNumber (className : String) (spelled : List Char) (n : Nat) :
    Except Fault (List Char) := do
  let l ← readLayout ⟨className, 'd'⟩ spelled
  let parts ← l.parts? className n
  if widthLimit ≤ l.width then throw .hugeWidth
  pure (l.join parts)

end Protogen.Template
