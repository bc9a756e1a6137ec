import Protogen.Text.Ranges
import Protogen.Text.Width.Ranges

/-!
# Width of texts

The number of cells that a text takes in a terminal: none for control characters and for marks
that combine with the character before, two for wide characters, one for all others. A joiner
makes the character behind it part of the one before it, and the mark of emoji widens the narrow
character before it that has an emoji form.

* `cells` is the width of a character, `width` that of a text.
* `clusters` divides a text into characters with what belongs to them.
* `fitTo` cuts or fills up a text to a number of cells.
-/

set_option autoImplicit false

namespace Protogen.Text

/-- The cells of a character. -/
def cells (c : Char) : Nat :=
  let n := c.toNat
  if n < 0x20 || (0x7f ≤ n && n < 0xa0) then 0
  else if n < 0x300 then 1
  else if inRanges weightless n then 0
  else if inRanges wide n then 2
  else 1

/-- The character that joins two others. -/
def joiner : Char := '\u200d'

/-- The mark of emoji. -/
def emojiMark : Char := '\ufe0f'

/-- The cells by which the mark of emoji widens a character. -/
def widening (c : Option Char) : Nat :=
  if c.any fun c => inRanges widened c.toNat then 1 else 0

/-- The cells of a text behind a character, which is missing if there is none to be widened. -/
def widthFrom : Option Char → List Char → Nat
  | _, [] => 0
  | last, c :: rest =>
    if c == joiner then
      match rest with
      | [] => 0
      | _ :: rest => widthFrom last rest
    else if c == emojiMark then widening last + widthFrom none rest
    else if cells c == 0 then widthFrom last rest
    else cells c + widthFrom (some c) rest

/-- The cells of a text. -/
def width (text : List Char) : Nat := widthFrom none text

/-- A character with what belongs to it. -/
structure Cluster where
  chars : List Char
  cells : Nat
  deriving DecidableEq, Repr

/-- The cluster with more characters and cells. -/
def Cluster.extend (k : Cluster) (chars : List Char) (cells : Nat) : Cluster :=
  ⟨k.chars ++ chars, k.cells + cells⟩

/-- The clusters of a text behind one that may go on, and behind a character to be widened. -/
def clustersFrom : Option Cluster → Option Char → List Char → List Cluster
  | current, _, [] => current.toList
  | none, last, c :: rest =>
    clustersFrom (some ⟨[c], cells c⟩) (if cells c == 0 then last else some c) rest
  | some k, last, c :: rest =>
    if c == joiner then
      match rest with
      | [] => [k.extend [joiner] 0]
      | d :: rest => clustersFrom (some (k.extend [joiner, d] 0)) last rest
    else if c == emojiMark then
      clustersFrom (some (k.extend [c] (widening last)))
        (if widening last == 0 then last else none) rest
    else if cells c == 0 then clustersFrom (some (k.extend [c] 0)) last rest
    else k :: clustersFrom (some ⟨[c], cells c⟩) (some c) rest

/-- The characters of a text, each with what belongs to it. -/
def clusters (text : List Char) : List Cluster := clustersFrom none none text

/-- The first clusters, up to a number of cells; a blank stands for half of a wide one. -/
def takeCells : Nat → List Cluster → List Char
  | _, [] => []
  | 0, _ => []
  | n, k :: rest => if k.cells ≤ n then k.chars ++ takeCells (n - k.cells) rest else [' ']

/-- Blanks. -/
def blanks (n : Nat) : List Char := List.replicate n ' '

/-- A text cut or filled up with blanks to a number of cells. -/
def fitTo (n : Nat) (text : List Char) : List Char :=
  let size := width text
  if size ≤ n then text ++ blanks (n - size) else takeCells n (clusters text)

end Protogen.Text
