import Protogen.Markup.Emoji.Names
import Protogen.Text.Basic
import Protogen.Text.Blank
import Protogen.Text.Digit
import Protogen.Text.Lower

/-!
# Codes of emoji

The name of an emoji between two colons stands for the emoji. Capitals do not count, and the name
may be followed by `-emoji` or `-text`, which asks for a form of the emoji. A name that no emoji has
is left as it is, with its colons.

* `emojiNamed?` is the emoji with a name.
* `replaceEmoji` puts the emoji of a text in the place of their codes.
-/

set_option autoImplicit false

namespace Protogen.Markup

/-- An emoji of the list of names, as its name and its characters. -/
def emojiEntry (entry : List Char) : List Char × List Char :=
  (entry.takeWhile (· != '='),
    (((entry.dropWhile (· != '=')).drop 1).splitOn '-').map fun code =>
      Char.ofNat (Text.readHex code))

/-- The characters of all emoji, by name. -/
def emojiTable : List (List Char × List Char) :=
  ((emojiNames.toList.splitOnP Text.isBlank).filter (!·.isEmpty)).map emojiEntry

/-- The emoji with a name. -/
def emojiNamed? (name : List Char) : Option (List Char) :=
  emojiTable.lookup (Text.lower name)

/-- The forms of emoji that a code may ask for, with the characters that choose them. -/
def emojiForms : List (List Char × Char) :=
  [("-emoji".toList, '\ufe0f'), ("-text".toList, '\ufe0e')]

/-- A code divided into the name and the character that chooses a form. -/
def splitForm (code : List Char) : List Char × List Char :=
  match emojiForms.findSome? fun form => (Text.dropEnd? form.1 code).map (·, [form.2]) with
  | some parts => parts
  | none => (code, [])

/-- What a code between colons stands for. -/
def emojiOf (code : List Char) : List Char :=
  let (name, form) := splitForm code
  match emojiNamed? name with
  | some emoji => emoji ++ form
  | none => ':' :: code ++ [':']

/-- Replaces the codes of a text behind a colon and what is read of a code, back to front. -/
def replaceFrom : Option (List Char) → List Char → List Char
  | none, [] => []
  | none, c :: rest => if c == ':' then replaceFrom (some []) rest else c :: replaceFrom none rest
  | some code, [] => ':' :: code.reverse
  | some code, c :: rest =>
    if c == ':' then emojiOf code.reverse ++ replaceFrom none rest
    else if Text.isBlank c then ':' :: code.reverse ++ c :: replaceFrom none rest
    else replaceFrom (some (c :: code)) rest

/-- A text with emoji in the place of their codes. -/
def replaceEmoji (text : List Char) : List Char := replaceFrom none text

end Protogen.Markup
