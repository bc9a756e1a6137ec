import Protogen.Markup.Styled
import Protogen.Text.Lines

/-!
# Widths of columns

A column is as wide as its widest line of text and the gap behind it. If the columns together are
too wide, the widest ones give way until the others are as wide or the table fits.

* `naturalWidth` is the width that a cell asks for.
* `collapse` takes from the widest columns what is too much.
-/

set_option autoImplicit false

namespace Protogen.Table

open Markup (Styled)

/-- The blanks behind every cell. -/
def gap : Nat := 2

/-- The cells of the widest line of a text. -/
def widestLine (text : Styled) : Nat :=
  ((Text.lines text.chars).map fun line => Text.width line.content).foldl max 0

/-- The width that a cell asks for, which is no more than a limit. -/
def naturalWidth (limit : Nat) (cell : Styled) : Nat := min limit (widestLine cell + gap)

/-- The width that the cells of a column ask for. -/
def columnWidth (limit : Nat) (cells : List Styled) : Nat :=
  (cells.map (naturalWidth limit)).foldl max 0

/-- A quotient rounded to the nearest number, a half to the even one. -/
def roundedQuotient (n d : Nat) : Nat :=
  let down := n / d
  let twice := 2 * (n % d)
  if twice < d || (twice == d && down % 2 == 0) then down else down + 1

/-- Takes a part of an excess from each of some columns of one width; the number of those that
are still to give is counted down. -/
def takeFrom (widest most : Nat) : Nat → Nat → List Nat → List Nat
  | _, _, [] => []
  | excess, givers, width :: rest =>
    if width = widest then
      let given := min most (roundedQuotient excess givers)
      (width - given) :: takeFrom widest most (excess - given) (givers - 1) rest
    else width :: takeFrom widest most excess givers rest

/-- One round: the widest columns give up the excess, but no more than makes them as wide as the
next ones. -/
def collapseOnce (excess : Nat) (widths : List Nat) : List Nat :=
  let widest := widths.foldl max 0
  let next := (widths.filter (· != widest)).foldl max 0
  takeFrom widest (min excess (widest - next)) excess (widths.count widest) widths

/-- The width of the columns together. -/
def total (widths : List Nat) : Nat := widths.foldl (· + ·) 0

/-- Takes from the widest columns until the columns fit into a limit, in at most so many rounds. -/
def collapseIn (limit : Nat) : Nat → List Nat → List Nat
  | 0, widths => widths
  | rounds + 1, widths =>
    if total widths ≤ limit then widths
    else collapseIn limit rounds (collapseOnce (total widths - limit) widths)

/-- Takes from the widest columns until the columns fit into a limit. -/
def collapse (limit : Nat) (widths : List Nat) : List Nat :=
  collapseIn limit (total widths - limit) widths

end Protogen.Table
