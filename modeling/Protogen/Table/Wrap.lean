import Protogen.Markup.Styled

/-!
# Wrapping

A cell is written in lines of a given width: it is broken at line feeds and, where a word does
not fit into its line any more, before the word. A line that is still too wide is cut, with an
ellipsis at its end.

* `words` are the words of a line, each with the white space behind it.
* `breaks` are the places at which a line is broken.
* `wrap` writes a text in lines, each as wide as asked for.
-/

set_option autoImplicit false

namespace Protogen.Table

open Markup (Styled)

/-- The words of a line behind what is read of one of them, back to front; white space that no
word precedes belongs to the first word. -/
def wordsFrom : List Char → Bool → List Char → List (List Char)
  | word, isWord, [] => if isWord then [word.reverse] else []
  | word, isWord, c :: rest =>
    if Text.isBlank c then wordsFrom (c :: word) isWord rest
    else if isWord && word.head?.any Text.isBlank then
      word.reverse :: wordsFrom [c] true rest
    else wordsFrom (c :: word) true rest

/-- The words of a line; one of white space has none. -/
def words (line : List Char) : List (List Char) := wordsFrom [] false line

/-- The text without the white space at its end. -/
def trimEnd (text : List Char) : List Char := (text.reverse.dropWhile Text.isBlank).reverse

/-- How far a line is broken: the place of the next word, the cells of the line that it would
continue, and the places of the breaks so far. -/
structure Breaking where
  place : Nat := 0
  cells : Nat := 0
  breaks : List Nat := []

/-- Breaks a line before a word, unless the word is the first one. -/
def Breaking.breakBefore (b : Breaking) (word : List Char) : Breaking :=
  ⟨b.place + word.length, Text.width word,
    if b.place = 0 then b.breaks else b.breaks ++ [b.place]⟩

/-- Goes on with a word; the white space behind it needs no room. -/
def Breaking.step (width : Nat) (b : Breaking) (word : List Char) : Breaking :=
  let size := Text.width (trimEnd word)
  if b.cells + size ≤ width then
    { b with place := b.place + word.length, cells := b.cells + Text.width word }
  else if width < size then b.breakBefore word
  else if b.cells = 0 || b.place = 0 then { b with place := b.place + word.length }
  else b.breakBefore word

/-- The places at which a line is broken. -/
def breaks (width : Nat) (line : List Char) : List Nat :=
  ((words line).foldl (Breaking.step width) {}).breaks

/-- The line without the white space at its end that is beyond a number of characters. -/
def dropBlanks (width : Nat) (line : Styled) : Styled :=
  let blankCount := (line.chars.reverse.takeWhile Text.isBlank).length
  let excess := line.chars.length - width
  if excess = 0 || blankCount = 0 then line else line.dropEnd (min blankCount excess)

/-- The line filled up with blanks to a width, or cut to it with an ellipsis. -/
def squeeze (width : Nat) (line : Styled) : Styled :=
  if width < line.width then line.replace (Text.fitTo (width - 1) line.chars ++ ['…'])
  else { line with chars := line.chars ++ Text.blanks (width - line.width) }

/-- The lines of a text between line feeds. -/
def splitLines (text : Styled) : List Styled :=
  let feeds := (Styled.placesBehind '\n' text.chars).flatMap fun n => [n - 1, n]
  (text.divide feeds).filter fun line => line.chars != ['\n']

/-- A line in lines of a width. -/
def wrapLine (width : Nat) (line : Styled) : List Styled :=
  let line := if line.chars.contains '\t' then line.expandTabs else line
  (line.divide (breaks width line.chars)).map fun part => squeeze width (dropBlanks width part)

/-- A text in lines of a width. -/
def wrap (width : Nat) (text : Styled) : List Styled := (splitLines text).flatMap (wrapLine width)

end Protogen.Table
