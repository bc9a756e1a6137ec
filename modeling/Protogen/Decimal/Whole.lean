import Protogen.Text.Blank
import Protogen.Text.Digit

/-!
# Whole numbers in texts

A whole number is spelled by a sign or none and decimal digits of any script, between which
single underscores may stand; white space around it does not count, and of the ASCII characters
the information separators are none. Digits beyond `digitLimit` are refused before the text
behind them is looked at.

* `readWhole` reads such a text.
-/

set_option autoImplicit false

namespace Protogen.Decimal

/-- Numbers of more digits are not read. -/
def digitLimit : Nat := 4300

/-- Why a text is not read as a whole number. -/
inductive WholeFault
  /-- a text that spells no whole number -/
  | malformed
  /-- a number of too many digits -/
  | tooLong (digits : Nat)
  deriving DecidableEq, Repr

/-- The values of digits between which single underscores may stand. -/
def digitValues? : List Char → Option (List Nat)
  | [] => none
  | [c] => (Text.digitValue? c).map ([·])
  | c :: '_' :: d :: rest => do
    let v ← Text.digitValue? c
    let vs ← digitValues? (d :: rest)
    pure (v :: vs)
  | c :: rest => do
    let v ← Text.digitValue? c
    let vs ← digitValues? rest
    pure (v :: vs)

/-- The number that digits spell. -/
def ofValues (digits : List Nat) : Nat := digits.foldl (fun n d => 10 * n + d) 0

/-- White space around a number. -/
def isBlankAround (c : Char) : Bool :=
  if c.toNat < 0x80 then Text.isAsciiBlank c else Text.isBlank c

/-- Whether a character is a digit or stands between digits. -/
def isDigitOrMark (c : Char) : Bool := c == '_' || (Text.digitValue? c).isSome

/-- A sign at the beginning of a text, as whether it is a minus, and what follows. -/
def splitSign : List Char → Bool × List Char
  | '-' :: rest => (true, rest)
  | '+' :: rest => (false, rest)
  | rest => (false, rest)

/-- The whole number that a text spells. -/
def readWhole (text : List Char) : Except WholeFault Int :=
  let (isNegative, unsigned) := splitSign (text.dropWhile isBlankAround)
  match digitValues? (unsigned.takeWhile isDigitOrMark) with
  | none => .error .malformed
  | some digits =>
    if digitLimit < digits.length then .error (.tooLong digits.length)
    else if (unsigned.dropWhile isDigitOrMark).all isBlankAround then
      let n : Int := ofValues digits
      .ok (if isNegative then -n else n)
    else .error .malformed

end Protogen.Decimal
