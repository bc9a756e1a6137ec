import Protogen.Template.Fault
import Protogen.Template.Number

/-!
# Layouts

A layout says how a text or a number is written: a fill character and an alignment, a sign, a
width, a mark between groups of digits, a precision, and a letter for the kind of writing.

* `readLayout` reads one; the first fault ends it.
* `splitPadding` shares the padding out between the sides of what is written.
-/

set_option autoImplicit false

namespace Protogen.Template

/-- How something is written. -/
structure Layout where
  fillChar : Char
  /-- `<`, `>`, `^` or `=` -/
  align : Option Char
  /-- `+`, `-` or a blank -/
  sign : Option Char
  /-- the letter `z`, for numbers without a negative zero -/
  zeroSign : Bool
  alternate : Bool
  /-- a zero before the width -/
  zeroFlag : Bool
  width : Nat
  /-- `,` or `_` -/
  grouping : Option Char
  precision : Option Nat
  code : Char
  deriving DecidableEq, Repr

/-- Widths from here on are refused. -/
def widthLimit : Nat := 4294967296

/-- How much padding goes to the left and to the right of what is written. -/
def splitPadding (align : Char) (pad : Nat) : Nat × Nat :=
  let left := if align == '>' then pad else if align == '^' then pad / 2 else 0
  (left, pad - left)

/-- Whether the character names an alignment. -/
def isAlign (c : Char) : Bool := c == '<' || c == '>' || c == '^' || c == '='

/-- Whether one mark between groups of digits follows the other one. -/
def areBothGroupings : Option Char → Option Char → Bool
  | some ',', some '_' => true
  | some '_', some ',' => true
  | _, _ => false

/-- Whether the digits that a letter asks for may be grouped by a mark. -/
def isGrouped (mark code : Char) : Bool :=
  "defgEG%F".toList.contains code || (mark == '_' && "boxX".toList.contains code)

/-- A character at the beginning of a text, if it is of a class, and what follows it. -/
def takeChar (isWanted : Char → Bool) : List Char → Option Char × List Char
  | c :: rest => if isWanted c then (some c, rest) else (none, c :: rest)
  | [] => (none, [])

/-- The precision at the beginning of a text, if there is one, and what follows it. -/
def takePrecision : List Char → Except Fault (Option Nat × List Char)
  | '.' :: rest =>
    match leadingNumber rest with
    | (none, _) => .error .missingPrecision
    | (some n, rest) =>
      if numberLimit ≤ n then .error .hugeLayoutNumber else .ok (some n, rest)
  | text => .ok (none, text)

/-- What a layout is of: the name of its class, and the letter when none is given. -/
structure Target where
  className : String
  usualCode : Char

/-- Reads the part of a layout that follows the alignment. -/
def layoutTail (target : Target) (whole : List Char) (fillChar align : Option Char)
    (text : List Char) : Except Fault Layout := do
  let (sign, text) := takeChar (fun c => c == '+' || c == '-' || c == ' ') text
  let (zeroSign, text) := takeChar (· == 'z') text
  let (alternate, text) := takeChar (· == '#') text
  let (zero, text) := takeChar (fun c => fillChar.isNone && c == '0') text
  let (width, text) := leadingNumber text
  if width.any (numberLimit ≤ ·) then throw .hugeLayoutNumber
  let (grouping, text) := takeChar (fun c => c == ',' || c == '_') text
  if areBothGroupings grouping text.head? then throw .bothGroupings
  let (precision, text) ← takePrecision text
  if 1 < text.length then throw (.invalidLayout (String.ofList whole) target.className)
  let code := text.headD target.usualCode
  if let some mark := grouping then
    if !isGrouped mark code then throw (.groupingInLayout mark code)
  pure {
    fillChar := fillChar.getD (zero.getD ' ')
    align, sign, grouping, precision, code
    zeroSign := zeroSign.isSome
    alternate := alternate.isSome
    zeroFlag := zero.isSome
    width := width.getD 0 }

/-- Reads a layout. -/
def readLayout (target : Target) (text : List Char) : Except Fault Layout :=
  match text with
  | c :: a :: rest =>
    if isAlign a then layoutTail target text (some c) (some a) rest
    else if isAlign c then layoutTail target text none (some c) (a :: rest)
    else layoutTail target text none none text
  | [c] =>
    if isAlign c then layoutTail target text none (some c) []
    else layoutTail target text none none text
  | [] => layoutTail target text none none text

end Protogen.Template
