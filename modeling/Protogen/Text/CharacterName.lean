import Protogen.Text.Basic
import Protogen.Text.CharacterName.Table
import Protogen.Text.Digit
import Protogen.Text.Ranges

/-!
# Names of characters

A character is named by its entry in the table, by its code point behind the name of a family, or,
if it is a Hangul syllable, by the names of its parts. Capitals count only in the names of unified
ideographs and of syllables.

* `isCharacterName` tells whether some character has a name.
-/

set_option autoImplicit false

namespace Protogen.Text

/-- What is read of the table: a name, back to front, and whether the name sought was met. -/
structure NameSearch where
  name : List Char := []
  isMet : Bool := false

/-- Goes on with a character of the table, for a name back to front. -/
def NameSearch.step (sought : List Char) (s : NameSearch) (c : Char) : NameSearch :=
  if c.isLower then
    ⟨s.name.drop (s.name.length - (c.toNat - 'a'.toNat)), s.isMet || s.name == sought⟩
  else if c == '\n' then s
  else { s with name := c :: s.name }

/-- Whether a name is in the table. -/
def isListedName (name : List Char) : Bool :=
  let last := nameTable.toList.foldl (NameSearch.step name.reverse) {}
  !name.isEmpty && (last.isMet || last.name == name.reverse)

/-- Whether a text is the code point of a character in ranges: four or five hexadecimal digits,
of which the letters are capitals. -/
def isCodeIn (ranges : List (Nat × Nat)) (code : List Char) : Bool :=
  (code.length == 4 || code.length == 5) &&
    code.all (fun c => (hexValue? c).isSome && !c.isLower) && inRanges ranges (readHex code)

/-- The unified ideographs. -/
def ideographs : List (Nat × Nat) := [
  (0x3400, 0x4dbf), (0x4e00, 0x9fff), (0x20000, 0x2a6df), (0x2a700, 0x2b738), (0x2b740, 0x2b81d),
  (0x2b820, 0x2cea1), (0x2ceb0, 0x2ebe0), (0x30000, 0x3134a)]

/-- Families of characters that are named by their code points, without needless zeros. -/
def codedFamilies : List (String × List (Nat × Nat)) := [
  ("CJK COMPATIBILITY IDEOGRAPH-", [(0xf900, 0xfa6d), (0xfa70, 0xfad9), (0x2f800, 0x2fa1d)]),
  ("KHITAN SMALL SCRIPT CHARACTER-", [(0x18b00, 0x18cd5)]),
  ("NUSHU CHARACTER-", [(0x1b170, 0x1b2fb)])]

/-- Whether a name in capitals is one of a family. -/
def isCodedName (name : List Char) : Bool :=
  codedFamilies.any fun family =>
    (dropStart? family.1.toList name).any fun code =>
      isCodeIn family.2 code && !(code.length == 5 && code.head? == some '0')

/-- The parts at the beginning of a syllable; there may be none. -/
def initials : List String := [
  "G", "GG", "N", "D", "DD", "R", "M", "B", "BB", "S", "SS", "", "J", "JJ", "C", "K", "T", "P", "H"]

/-- The parts in the middle of a syllable. -/
def medials : List String := [
  "A", "AE", "YA", "YAE", "EO", "E", "YEO", "YE", "O", "WA", "WAE", "OE", "YO", "U", "WEO", "WE",
  "WI", "YU", "EU", "YI", "I"]

/-- The parts at the end of a syllable; there may be none. -/
def finals : List String := [
  "", "G", "GG", "GS", "N", "NJ", "NH", "D", "L", "LG", "LM", "LB", "LS", "LT", "LP", "LH", "M",
  "B", "BS", "S", "SS", "NG", "J", "C", "K", "T", "P", "H"]

/-- What follows the longest of the parts that a text begins with. -/
def afterPart? (parts : List String) (text : List Char) : Option (List Char) :=
  (parts.filterMap fun part => dropStart? part.toList text).foldl
    (fun best rest => if best.any (·.length ≤ rest.length) then best else some rest) none

/-- Whether a text names the parts of a syllable. -/
def isSyllable (text : List Char) : Bool :=
  (((afterPart? initials text).bind (afterPart? medials)).bind (afterPart? finals)) == some []

/-- Whether some character has a name. -/
def isCharacterName (name : List Char) : Bool :=
  match dropStart? "HANGUL SYLLABLE ".toList name with
  | some parts => isSyllable parts
  | none =>
    match dropStart? "CJK UNIFIED IDEOGRAPH-".toList name with
    | some code => isCodeIn ideographs code
    | none => let upper := name.map Char.toUpper; isCodedName upper || isListedName upper

end Protogen.Text
