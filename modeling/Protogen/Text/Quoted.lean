import Protogen.Text.Printable

/-!
# Quoted texts

A text is quoted with single quotes, or with double quotes if it holds a single quote and no
double one. Inside, the backslash and the quote used are escaped by a backslash; line feed,
carriage return and tab by a letter; every other character that is not printable by the
hexadecimal digits of its code point.

* `quote` writes the quoted form; `quoteAscii` escapes all characters outside ASCII too.
* `quoteList` is the form of a list of texts.
-/

set_option autoImplicit false

namespace Protogen.Text

/-- `width` hexadecimal digits of a number, lower case. -/
def hexDigits : Nat → Nat → List Char
  | 0, _ => []
  | width + 1, n => hexDigits width (n / 16) ++ [Nat.digitChar (n % 16)]

/-- An escaped code point. -/
def escapeCode (n : Nat) : List Char :=
  if n < 0x100 then '\\' :: 'x' :: hexDigits 2 n
  else if n < 0x10000 then '\\' :: 'u' :: hexDigits 4 n
  else '\\' :: 'U' :: hexDigits 8 n

/-- One character between quotes; `plain` tells which characters are written as they are. -/
def quoteChar (plain : Char → Bool) (mark c : Char) : List Char :=
  if c == mark || c == '\\' then ['\\', c]
  else if c == '\n' then ['\\', 'n']
  else if c == '\r' then ['\\', 'r']
  else if c == '\t' then ['\\', 't']
  else if plain c then [c]
  else escapeCode c.toNat

/-- The quotation mark for a text. -/
def quoteMark (text : List Char) : Char :=
  if text.contains '\'' && !text.contains '"' then '"' else '\''

/-- A text between quotation marks. -/
def quoteWith (plain : Char → Bool) (text : String) : String :=
  let mark := quoteMark text.toList
  String.ofList (mark :: (text.toList.flatMap (quoteChar plain mark) ++ [mark]))

/-- A text between quotation marks, printable characters as they are. -/
def quote (text : String) : String := quoteWith isPrintable text

/-- A text between quotation marks, in ASCII. -/
def quoteAscii (text : String) : String :=
  quoteWith (fun c => c.toNat < 0x7f && isPrintable c) text

/-- A list of quoted texts in brackets. -/
def quoteList (texts : List String) : String :=
  "[" ++ String.intercalate ", " (texts.map quote) ++ "]"

end Protogen.Text
