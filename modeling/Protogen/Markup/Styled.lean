import Protogen.Text.Blank
import Protogen.Text.Width

/-!
# Styled texts

A styled text is a text with spans, the parts of it that a tag covers. Where a span begins or ends
the text is cut into pieces, and the pieces are measured one by one.

* `Styled.divide` divides a text with its spans, `Styled.join` puts parts together again.
* `Styled.dropEnd` and `Styled.replace` change the text, and crop the spans.
* `Styled.expandTabs` puts blanks in the place of tabs.
* `Styled.pieces` are the pieces between the ends of spans.
-/

set_option autoImplicit false

namespace Protogen.Markup

/-- A part of a text, from its first character up to the one behind its last, and its style. -/
structure Span where
  start : Nat
  stop : Nat
  style : List Char := []
  deriving DecidableEq, Repr

/-- A text and the spans in it. -/
structure Styled where
  chars : List Char := []
  spans : List Span := []
  deriving DecidableEq, Repr

namespace Span

/-- The part of a span inside another one, counted from its beginning; it may be empty. -/
def within (s : Span) (range : Span) : Span :=
  { s with start := s.start - range.start, stop := min s.stop range.stop - range.start }

/-- Whether there is nothing in a span. -/
def isEmpty (s : Span) : Bool := s.stop ≤ s.start

/-- A span with an end that is not beyond a place. -/
def crop (s : Span) (stop : Nat) : Span :=
  { s with stop := min s.stop stop }

/-- A span moved behind other text. -/
def shift (s : Span) (n : Nat) : Span :=
  { s with start := s.start + n, stop := s.stop + n }

end Span

namespace Styled

/-- The cells of a text. -/
def width (t : Styled) : Nat := Text.width t.chars

/-- The part of a text in a range; spans of which nothing is left are dropped. -/
def part (t : Styled) (range : Span) : Styled :=
  ⟨(t.chars.take range.stop).drop range.start,
    (t.spans.map (·.within range)).filter (!·.isEmpty)⟩

/-- The ranges between offsets in ascending order, from a place to the end of a text. -/
def ranges (length : Nat) : Nat → List Nat → List Span
  | start, [] => [{ start, stop := length }]
  | start, offset :: rest => { start, stop := offset } :: ranges length offset rest

/-- The parts of a text between offsets; without any, the text stays as it is. -/
def divide (t : Styled) (offsets : List Nat) : List Styled :=
  if offsets.isEmpty then [t] else (ranges t.chars.length 0 offsets).map t.part

/-- Puts texts together. -/
def join (parts : List Styled) : Styled :=
  parts.foldl (fun t p =>
    ⟨t.chars ++ p.chars, t.spans ++ p.spans.map (·.shift t.chars.length)⟩) {}

/-- The text without a number of characters at its end. -/
def dropEnd (t : Styled) (n : Nat) : Styled :=
  let stop := t.chars.length - n
  ⟨t.chars.take stop, (t.spans.filter (·.start < stop)).map (·.crop stop)⟩

/-- Another text in the place of the text; spans are cropped if it is shorter. -/
def replace (t : Styled) (chars : List Char) : Styled :=
  if chars.length < t.chars.length then
    ⟨chars, (t.spans.filter (·.start < chars.length)).map (·.crop chars.length)⟩
  else ⟨chars, t.spans⟩

/-- The places behind every occurrence of a character. -/
def placesBehind (mark : Char) (text : List Char) : List Nat :=
  (text.zipIdx 1).filterMap fun (c, i) => if c == mark then some i else none

/-- Blanks behind a text; spans that reach its end cover them too. -/
def extend (t : Styled) (n : Nat) : Styled :=
  ⟨t.chars ++ Text.blanks n,
    t.spans.map fun s => if t.chars.length ≤ s.stop then { s with stop := s.stop + n } else s⟩

/-- A part that ends with a tab, behind a number of cells, with blanks up to the next stop in the
place of the tab, and the cells up to there; other parts are left. -/
def expandTab (cells : Nat) (t : Styled) : Styled × Nat :=
  if t.chars.getLast? == some '\t' then
    let blank : Styled := ⟨t.chars.dropLast ++ [' '], t.spans⟩
    let reached := cells + blank.width
    let n := (8 - reached % 8) % 8
    (blank.extend n, reached + n)
  else (t, cells + t.width)

/-- The text with blanks in the place of every tab, up to the next of the stops, which are eight
cells apart. -/
def expandTabs (t : Styled) : Styled :=
  let parts := t.divide (placesBehind '\t' t.chars)
  let parts := if t.chars.getLast? == some '\t' then parts.dropLast else parts
  join (parts.foldl (fun (done, cells) p =>
    let (p, cells) := expandTab cells p
    (done ++ [p], cells)) ([], 0)).1

/-- Cuts a text at places, of which the first character has one. -/
def cut (isCut : Nat → Bool) : Nat → List Char → List (List Char)
  | _, [] => []
  | place, c :: rest =>
    match cut isCut (place + 1) rest with
    | [] => [[c]]
    | piece :: pieces => if isCut (place + 1) then [c] :: piece :: pieces
      else (c :: piece) :: pieces

/-- The pieces of a text between the ends of its spans. -/
def pieces (t : Styled) : List (List Char) :=
  cut (fun place => t.spans.any fun s => s.start == place || s.stop == place) 0 t.chars

end Styled

end Protogen.Markup
