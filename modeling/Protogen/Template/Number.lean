import Protogen.Text.Digit

/-!
# Numbers in templates

Numbers are spelled by decimal digits of any script.

* `leadingNumber` reads the number at the beginning of a text.
* `numberLimit` is the first number that is too large.
-/

set_option autoImplicit false

namespace Protogen.Template

/-- The number at the beginning of a text, if there is one, and what follows it. -/
def leadingNumber (text : List Char) : Option Nat × List Char :=
  let digits := text.takeWhile fun c => (Text.digitValue? c).isSome
  (if digits.isEmpty then none
    else some ((digits.filterMap Text.digitValue?).foldl (fun n d => 10 * n + d) 0),
    text.dropWhile fun c => (Text.digitValue? c).isSome)

/-- Numbers from here on are too large for a template. -/
def numberLimit : Nat := 9223372036854775808

end Protogen.Template
