/-!
# Control sequences

A control sequence tells a terminal what to do. It begins with an escape and an opening bracket,
goes on with parameters, `0` to `?`, and with characters from the blank to `/`, and ends with one
from `@` to `~`.

* `plain` is a text without its control sequences.
-/

set_option autoImplicit false

namespace Protogen.Text

/-- How much of a control sequence is read. -/
inductive SequencePart
  | escape
  | parameters
  | intermediates
  deriving DecidableEq, Repr

/-- Whether a character ends a control sequence. -/
def endsSequence (c : Char) : Bool := '@' ≤ c && c ≤ '~'

/-- How much is read of a control sequence that goes on with a character, if it may do so. -/
def SequencePart.next? (part : SequencePart) (c : Char) : Option SequencePart :=
  if part == .escape then if c == '[' then some .parameters else none
  else if part == .parameters && '0' ≤ c && c ≤ '?' then some .parameters
  else if ' ' ≤ c && c ≤ '/' then some .intermediates
  else none

/-- A text without control sequences, behind the beginning of one, which is held back to front. -/
def plainFrom : Option (SequencePart × List Char) → List Char → List Char
  | none, [] => []
  | some (_, held), [] => held.reverse
  | none, c :: rest =>
    if c == '\x1b' then plainFrom (some (.escape, [c])) rest else c :: plainFrom none rest
  | some (part, held), c :: rest =>
    match part.next? c with
    | some part => plainFrom (some (part, c :: held)) rest
    | none =>
      if part != .escape && endsSequence c then plainFrom none rest
      else held.reverse ++
        if c == '\x1b' then plainFrom (some (.escape, [c])) rest else c :: plainFrom none rest

/-- A text without its control sequences; only those that are there from the beginning count. -/
def plain (text : String) : String := String.ofList (plainFrom none text.toList)

end Protogen.Text
