import Protogen.Template.Layout

/-!
# Layouts of texts

A text is truncated to the precision and padded to the width.

* `layOutText` lays a text out.
-/

set_option autoImplicit false

namespace Protogen.Template

/-- What the layout of a text is of. -/
def textTarget : Target := ⟨"str", 's'⟩

/-- What a layout asks for that a text does not have. -/
def Layout.textFault? (l : Layout) : Option Fault :=
  if l.code != 's' then some (.unknownLayout l.code "str")
  else if l.sign == some ' ' then some .blankSignInLayout
  else if l.sign.isSome then some .signInLayout
  else if l.zeroSign then some .zeroSignInLayout
  else if l.alternate then some .alternateInLayout
  else if l.align == some '=' then some .equalsInLayout
  else none

/-- A text, truncated to the precision and padded to the width. -/
def Layout.text (l : Layout) (value : List Char) : List Char :=
  let shown := match l.precision with
    | some n => value.take n
    | none => value
  let (left, right) := splitPadding (l.align.getD '<') (l.width - shown.length)
  List.replicate left l.fillChar ++ shown ++ List.replicate right l.fillChar

/-- Lays a text out as a text spells it; an empty one leaves it as it is. -/
def layOutText (spelled value : List Char) : Except Fault (List Char) :=
  if spelled.isEmpty then .ok value
  else do
    let l ← readLayout textTarget spelled
    if let some fault := l.textFault? then throw fault
    if widthLimit ≤ l.width then throw .hugeWidth
    pure (l.text value)

end Protogen.Template
