import Protogen.Json.Basic

/-!
# Writing JSON texts

Every character outside printable ASCII is escaped, above U+FFFF by a surrogate pair.

* `Json.compact` writes a value on one line, without blanks.
* `Json.pretty` writes one item or member a line, indented by two blanks a level.
-/

set_option autoImplicit false

namespace Protogen.Json

/-- The escape of a unit of 16 bits. -/
def escapeUnit (n : Nat) : List Char := '\\' :: 'u' :: Text.hexDigits 4 n

/-- One character of a text in quotes. -/
def escapeChar (c : Char) : List Char :=
  if c == '"' then ['\\', '"']
  else if c == '\\' then ['\\', '\\']
  else if c == '\n' then ['\\', 'n']
  else if c == '\r' then ['\\', 'r']
  else if c == '\t' then ['\\', 't']
  else if c == '\x08' then ['\\', 'b']
  else if c == '\x0c' then ['\\', 'f']
  else if 0x20 ≤ c.toNat && c.toNat ≤ 0x7e then [c]
  else if c.toNat < 0x10000 then escapeUnit c.toNat
  else
    let n := c.toNat - 0x10000
    escapeUnit (0xd800 + n / 0x400) ++ escapeUnit (0xdc00 + n % 0x400)

/-- A text in quotes. -/
def stringText (s : String) : String :=
  String.ofList ('"' :: (s.toList.flatMap escapeChar ++ ['"']))

/-- The text of a number with a fraction. -/
def floatText : Binary64 → String
  | .infinite negative => if negative then "-Infinity" else "Infinity"
  | .notANumber => "NaN"
  | x => x.text

mutual

/-- A value on one line. -/
def compact : Json → String
  | .null => "null"
  | .bool b => if b then "true" else "false"
  | .int n => toString n
  | .float x => floatText x
  | .str s => stringText s
  | .arr items => "[" ++ String.intercalate "," (compactItems items) ++ "]"
  | .obj members => "\x7b" ++ String.intercalate "," (compactMembers members) ++ "\x7d"

/-- The items of a list, each on one line. -/
def compactItems : List Json → List String
  | [] => []
  | item :: items => compact item :: compactItems items

/-- The members of an object, each on one line. -/
def compactMembers : List (String × Json) → List String
  | [] => []
  | (name, value) :: members =>
    (stringText name ++ ":" ++ compact value) :: compactMembers members

end

/-- A line break and the indentation of a level. -/
def newline (level : Nat) : String := "\n" ++ String.join (List.replicate level "  ")

mutual

/-- A value over several lines, the first of which stands at a level already. -/
def prettyAt : Nat → Json → String
  | level, .arr items =>
    if items.isEmpty then "[]"
    else "[" ++ newline (level + 1) ++
      String.intercalate ("," ++ newline (level + 1)) (prettyItems (level + 1) items) ++
      newline level ++ "]"
  | level, .obj members =>
    if members.isEmpty then "\x7b\x7d"
    else "\x7b" ++ newline (level + 1) ++
      String.intercalate ("," ++ newline (level + 1)) (prettyMembers (level + 1) members) ++
      newline level ++ "\x7d"
  | _, value => compact value

/-- The items of a list at a level. -/
def prettyItems : Nat → List Json → List String
  | _, [] => []
  | level, item :: items => prettyAt level item :: prettyItems level items

/-- The members of an object at a level. -/
def prettyMembers : Nat → List (String × Json) → List String
  | _, [] => []
  | level, (name, value) :: members =>
    (stringText name ++ ": " ++ prettyAt level value) :: prettyMembers level members

end

/-- A value over several lines. -/
def pretty (value : Json) : String := prettyAt 0 value

end Protogen.Json
