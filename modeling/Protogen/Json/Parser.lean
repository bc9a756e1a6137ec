import Protogen.Decimal.Whole
import Protogen.Json.Basic

/-!
# Reading JSON texts

* `Json.Fault` names what can be wrong with a text, `Json.SyntaxError` where it stands.
* `Json.parse` reads a text that holds one value; besides the numbers of the standard it reads
  `NaN`, `Infinity` and `-Infinity`.

The readers work on the rest of the text and report a fault by the number of characters that
remain; `parse` turns it into an offset from the beginning.
-/

set_option autoImplicit false

namespace Protogen.Json

/-- What can be wrong with a JSON text. -/
inductive Fault
  | byteOrderMark
  | value
  | propertyName
  | colon
  | comma
  | openString
  | controlCharacter
  | escape
  | hexEscape
  | extraData
  deriving DecidableEq, Repr

/-- The wording of a fault. -/
def Fault.message : Fault → String
  | .byteOrderMark => "Unexpected UTF-8 BOM (decode using utf-8-sig)"
  | .value => "Expecting value"
  | .propertyName => "Expecting property name enclosed in double quotes"
  | .colon => "Expecting ':' delimiter"
  | .comma => "Expecting ',' delimiter"
  | .openString => "Unterminated string starting at"
  | .controlCharacter => "Invalid control character at"
  | .escape => "Invalid \\escape"
  | .hexEscape => "Invalid \\uXXXX escape"
  | .extraData => "Extra data"

/-- A fault and its place: line and column count from one, the offset from zero. -/
structure SyntaxError where
  fault : Fault
  line : Nat
  column : Nat
  offset : Nat
  deriving DecidableEq, Repr

/-- The wording of a syntax error. -/
def SyntaxError.message (e : SyntaxError) : String :=
  e.fault.message ++ ": line " ++ toString e.line ++ " column " ++ toString e.column ++
    " (char " ++ toString e.offset ++ ")"

/-- Why no value was read. -/
inductive Failure
  | malformed (error : SyntaxError)
  /-- a whole number of more digits than are read -/
  | hugeNumber (digits : Nat)
  /-- a list or an object that is too deep inside of others -/
  | tooDeep (isList : Bool)
  deriving DecidableEq, Repr

/-- Why a reader stopped; a fault stands before the last `remaining` characters of the text. -/
inductive Stop
  | fault (fault : Fault) (remaining : Nat)
  | hugeNumber (digits : Nat)
  | tooDeep (isList : Bool)

/-- A reader takes a value from the beginning of a text and leaves the rest. -/
abbrev Reader (α : Type) := List Char → Except Stop (α × List Char)

/-- Blanks between the parts of a value. -/
def isSpace (c : Char) : Bool := c == ' ' || c == '\t' || c == '\n' || c == '\r'

/-- The text without the blanks at its beginning. -/
def skipSpace (text : List Char) : List Char := text.dropWhile isSpace

/-- The value of four hexadecimal digits at the beginning of a text. -/
def hexCode? : List Char → Option Nat
  | a :: b :: c :: d :: _ => do
    pure (((← Text.hexValue? a) * 16 + (← Text.hexValue? b)) * 256 +
      (← Text.hexValue? c) * 16 + (← Text.hexValue? d))
  | _ => none

/-- The character of an escape of one letter. -/
def escaped? : Char → Option Char
  | '"' => some '"'
  | '\\' => some '\\'
  | '/' => some '/'
  | 'b' => some '\x08'
  | 'f' => some '\x0c'
  | 'n' => some '\n'
  | 'r' => some '\r'
  | 't' => some '\t'
  | _ => none

/-- The character of a code; a half of a surrogate pair has none and is replaced. -/
def charOfCode (n : Nat) : Char :=
  if 0xd800 ≤ n && n < 0xe000 then '\ufffd' else Char.ofNat n

/-- Reads a character behind `\u`: its code, or its two codes if it is written as a surrogate
pair. A backslash in the place of the second code begins an escape of its own. -/
def codedChar (text : List Char) : Except Stop (Char × List Char) :=
  if (text.drop 4).isEmpty then .error (.fault .hexEscape (text.length + 1))
  else match hexCode? text with
    | none => .error (.fault .hexEscape (text.length + 1))
    | some high =>
      let after := text.drop 4
      if 0xd800 ≤ high && high < 0xdc00 && !(after.drop 6).isEmpty then
        match after with
        | '\\' :: 'u' :: tail =>
          match hexCode? tail with
          | none => .error (.fault .hexEscape (tail.length + 1))
          | some low =>
            if 0xdc00 ≤ low && low < 0xe000 then
              .ok (Char.ofNat (0x10000 + (high - 0xd800) * 0x400 + (low - 0xdc00)), tail.drop 4)
            else .ok (charOfCode high, after)
        | _ => .ok (charOfCode high, after)
      else .ok (charOfCode high, after)

/-- Reads the rest of a text in quotes; `start` is the number of characters that remained at its
opening quote. -/
def stringRest (start : Nat) : Nat → Reader (List Char)
  | 0, _ => .error (.fault .openString start)
  | fuel + 1, text =>
    match text with
    | [] => .error (.fault .openString start)
    | '"' :: rest => .ok ([], rest)
    | ['\\'] => .error (.fault .openString start)
    | '\\' :: 'u' :: rest => do
      let (c, rest) ← codedChar rest
      let (others, rest) ← stringRest start fuel rest
      pure (c :: others, rest)
    | '\\' :: c :: rest =>
      match escaped? c with
      | none => .error (.fault .escape (rest.length + 2))
      | some d => (stringRest start fuel rest).map fun r => (d :: r.1, r.2)
    | c :: rest =>
      if c.toNat < 0x20 then .error (.fault .controlCharacter (rest.length + 1))
      else (stringRest start fuel rest).map fun r => (c :: r.1, r.2)

/-- Reads a text behind its opening quote. -/
def string : Reader String := fun text =>
  (stringRest (text.length + 1) (text.length + 1) text).map fun r => (String.ofList r.1, r.2)

/-- The number that digits spell. -/
def ofDigits (digits : List Char) : Nat := digits.foldl (fun n c => 10 * n + (c.toNat - 48)) 0

/-- The fraction of a number: the digits after a point that a digit follows. -/
def fraction (text : List Char) : List Char × List Char :=
  match text with
  | '.' :: c :: rest =>
    if c.isDigit then ((c :: rest).takeWhile Char.isDigit, (c :: rest).dropWhile Char.isDigit)
    else ([], text)
  | _ => ([], text)

/-- The exponent of a number: a letter `e`, a sign or none, and digits. -/
def exponent? (text : List Char) : Option (Int × List Char) :=
  match text with
  | c :: rest =>
    if c == 'e' || c == 'E' then
      let (negative, rest) := match rest with
        | '-' :: r => (true, r)
        | '+' :: r => (false, r)
        | _ => (false, rest)
      let digits := rest.takeWhile Char.isDigit
      if digits.isEmpty then none
      else
        let n : Int := ofDigits digits
        some (if negative then -n else n, rest.dropWhile Char.isDigit)
    else none
  | [] => none

/-- Reads a number. -/
def number : Reader Json := fun text =>
  let (negative, body) := match text with
    | '-' :: rest => (true, rest)
    | _ => (false, text)
  let whole := match body with
    | '0' :: _ => ['0']
    | _ => body.takeWhile Char.isDigit
  if whole.isEmpty then .error (.fault .value text.length)
  else
    let (places, rest) := fraction (body.drop whole.length)
    match exponent? rest with
    | some (e, rest) =>
      .ok (.float (Binary64.ofDecimal negative (ofDigits (whole ++ places)) (e - places.length)),
        rest)
    | none =>
      if places.isEmpty then
        if Decimal.digitLimit < whole.length then .error (.hugeNumber whole.length)
        else
          let n : Int := ofDigits whole
          .ok (.int (if negative then -n else n), rest)
      else .ok (.float (Binary64.ofDecimal negative (ofDigits (whole ++ places)) (-places.length)),
        rest)

/-- The values that are words, with their words. -/
def words : List (String × Json) :=
  [("null", .null), ("true", .bool true), ("false", .bool false), ("NaN", .float .notANumber),
    ("Infinity", .float (.infinite false)), ("-Infinity", .float (.infinite true))]

/-- Reads a value that is a word. -/
def word? (text : List Char) : Option (Json × List Char) :=
  words.findSome? fun w =>
    if w.1.toList.isPrefixOf text then some (w.2, text.drop w.1.length) else none

/-- Lists and objects may be so deep inside of each other. The number is a nominal one: what bounds
the depth is the room that is left for calls, and this is less the deeper the reader itself is
called. Texts with fewer levels may fail too where it is called from a command. -/
def depthLimit : Nat := 990

mutual

/-- Reads a value in which lists and objects may be `room` deep. -/
def value : Nat → Nat → Reader Json
  | 0, _, text => .error (.fault .value text.length)
  | fuel + 1, room, text =>
    match text with
    | '"' :: rest => (string rest).map fun r => (.str r.1, r.2)
    | '{' :: rest =>
      if room == 0 then .error (.tooDeep false)
      else match skipSpace rest with
        | '}' :: after => .ok (.obj [], after)
        | rest => (members fuel (room - 1) rest).map fun r => (.ofMembers r.1, r.2)
    | '[' :: rest =>
      if room == 0 then .error (.tooDeep true)
      else match skipSpace rest with
        | ']' :: after => .ok (.arr [], after)
        | rest => (items fuel (room - 1) rest).map fun r => (.arr r.1, r.2)
    | _ => match word? text with
      | some found => .ok found
      | none => number text

/-- Reads the members of an object up to its closing brace. -/
def members : Nat → Nat → Reader (List (String × Json))
  | 0, _, text => .error (.fault .propertyName text.length)
  | fuel + 1, room, text =>
    match text with
    | '"' :: rest => do
      let (name, rest) ← string rest
      match skipSpace rest with
      | ':' :: rest => do
        let (v, rest) ← value fuel room (skipSpace rest)
        match skipSpace rest with
        | '}' :: rest => pure ([(name, v)], rest)
        | ',' :: rest => do
          let (more, rest) ← members fuel room (skipSpace rest)
          pure ((name, v) :: more, rest)
        | rest => .error (.fault .comma rest.length)
      | rest => .error (.fault .colon rest.length)
    | _ => .error (.fault .propertyName text.length)

/-- Reads the items of a list up to its closing bracket. -/
def items : Nat → Nat → Reader (List Json)
  | 0, _, text => .error (.fault .value text.length)
  | fuel + 1, room, text => do
    let (v, rest) ← value fuel room text
    match skipSpace rest with
    | ']' :: rest => pure ([v], rest)
    | ',' :: rest => do
      let (more, rest) ← items fuel room (skipSpace rest)
      pure (v :: more, rest)
    | rest => .error (.fault .comma rest.length)

end

/-- The place of a fault in a text. -/
def locate (text : List Char) (fault : Fault) (offset : Nat) : SyntaxError :=
  let before := text.take offset
  ⟨fault, before.count '\n' + 1, (before.reverse.takeWhile (· != '\n')).length + 1, offset⟩

/-- Reads a text that holds one value and blanks around it. -/
def parse (text : String) : Except Failure Json :=
  let chars := text.toList
  let fail (stop : Stop) : Failure := match stop with
    | .fault fault remaining => .malformed (locate chars fault (chars.length - remaining))
    | .hugeNumber digits => .hugeNumber digits
    | .tooDeep isList => .tooDeep isList
  if chars.head? == some '\ufeff' then .error (.malformed (locate chars .byteOrderMark 0))
  -- a reader of values takes no more than two steps for a character
  else match value (2 * chars.length + 1) depthLimit (skipSpace chars) with
    | .error stop => .error (fail stop)
    | .ok (v, rest) =>
      match skipSpace rest with
      | [] => .ok v
      | rest => .error (fail (.fault .extraData rest.length))

end Protogen.Json
