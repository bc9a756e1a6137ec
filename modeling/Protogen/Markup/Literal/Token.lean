import Protogen.Decimal.Whole
import Protogen.Text.CharacterName
import Protogen.Text.Lines

/-!
# Tokens of literals

Literals are written with numbers, texts in quotes, a few words, and marks. A literal is on one
line, but for those that end in brackets or behind a backslash; lines of white space and comments
may stand around it.

* `afterNumber?` and `afterQuoted?` read a number and a text in quotes.
* `tokens?` divides a text into tokens.

The readers give what follows; one that reads nothing of its kind, or something that is not
complete, has no result.
-/

set_option autoImplicit false

namespace Protogen.Markup.Literal

/-- The sorts of numbers. -/
inductive NumberSort
  | real
  | imaginary
  /-- a whole number that is too large to be added to an imaginary one -/
  | huge
  deriving DecidableEq, Repr

/-- A token of a literal. -/
inductive Token
  | number (sort : NumberSort)
  /-- a text, by whether it is one of bytes -/
  | quoted (isBytes : Bool)
  /-- a word for a value that is always the same -/
  | constant
  /-- the word before the empty set -/
  | setWord
  | mark (c : Char)
  deriving DecidableEq, Repr

/-- Whether a character may stand in a word. -/
def isWordChar (c : Char) : Bool := c.isAlphanum || c == '_' || 0x80 ≤ c.toNat

/-- What follows digits of a class, between which single underscores may stand. -/
def skipDigits (isIn : Char → Bool) : List Char → List Char
  | '_' :: c :: rest => if isIn c then skipDigits isIn rest else '_' :: c :: rest
  | c :: rest => if isIn c then skipDigits isIn rest else c :: rest
  | [] => []

/-- What follows digits of a class, if there are any. -/
def afterDigits? (isIn : Char → Bool) (text : List Char) : Option (List Char) :=
  if text.head?.any isIn then some (skipDigits isIn text) else none

/-- What follows the digits of a number in another base, which an underscore may precede. -/
def afterBased? (isIn : Char → Bool) (text : List Char) : Option (List Char) :=
  let rest := skipDigits isIn text
  if rest.length < text.length then some rest else none

/-- The base that a letter behind a zero announces. -/
def base? (c : Char) : Option Nat :=
  match c.toLower with
  | 'x' => some 16
  | 'o' => some 8
  | 'b' => some 2
  | _ => none

/-- Whether a character is a digit of a base. -/
def isDigitOf (base : Nat) (c : Char) : Bool := (Text.hexValue? c).any (· < base)

/-- The sort of a whole number, given by its digits and what stands between them. Numbers of
2^1024 and those that are rounded to it are huge. -/
def wholeSort (base : Nat) (digits : List Char) : NumberSort :=
  let n := (digits.filterMap Text.hexValue?).foldl (fun n d => base * n + d) 0
  if Nat.pow 2 1024 - Nat.pow 2 970 ≤ n then .huge else .real

/-- What follows the fraction of a number, whose whole digits are there or not. -/
def afterFraction (hasWhole : Bool) (text : List Char) : List Char :=
  match text with
  | '.' :: rest =>
    match afterDigits? Char.isDigit rest with
    | some rest => rest
    | none => if hasWhole then rest else text
  | _ => text

/-- What follows the exponent of a number, if it has one. -/
def afterExponent (text : List Char) : List Char :=
  match text with
  | e :: rest =>
    let digits := if rest.head?.any fun c => c == '+' || c == '-' then rest.drop 1 else rest
    if e.toLower == 'e' then (afterDigits? Char.isDigit digits).getD text else text
  | [] => []

/-- Whether digits, between which there are underscores, are those of a whole number: one other
than zero does not begin with zero and has no more digits than are read. -/
def isWhole (digits : List Char) : Bool :=
  !digits.any (fun c => c != '0' && c != '_') ||
    (digits.head? != some '0' && (digits.filter (· != '_')).length ≤ Decimal.digitLimit)

/-- The part of a text before the rest of it. -/
def consumed (text rest : List Char) : List Char := text.take (text.length - rest.length)

/-- The sort of a decimal number, and what follows. -/
def afterDecimal? (text : List Char) : Option (NumberSort × List Char) :=
  let whole := (afterDigits? Char.isDigit text).getD text
  let rest := afterExponent (afterFraction (whole.length < text.length) whole)
  if rest.length == text.length then none
  else if rest.head?.any fun c => c.toLower == 'j' then some (.imaginary, rest.drop 1)
  else if rest.length == whole.length then
    let digits := consumed text rest
    if isWhole digits then some (wholeSort 10 digits, rest) else none
  else some (.real, rest)

/-- The sort of a number, and what follows. -/
def afterNumber? (text : List Char) : Option (NumberSort × List Char) := do
  let (sort, rest) ← match text with
    | '0' :: c :: digits =>
      match base? c with
      | some base => do
        let rest ← afterBased? (isDigitOf base) digits
        pure (wholeSort base (consumed digits rest), rest)
      | none => afterDecimal? text
    | _ => afterDecimal? text
  if rest.head?.any isWordChar then none else pure (sort, rest)

/-- How a text in quotes is written. -/
structure Quotes where
  mark : Char
  isTriple : Bool
  isRaw : Bool
  isBytes : Bool
  deriving DecidableEq, Repr

/-- The number of hexadecimal digits that a letter behind a backslash needs. -/
def escapeDigits (q : Quotes) (c : Char) : Nat :=
  if q.isRaw then 0
  else if c == 'x' then 2
  else if q.isBytes then 0
  else if c == 'u' then 4
  else if c == 'U' then 8
  else 0

/-- Whether there is the name of a character in curly brackets at the beginning of a text; the
quote that ends the text in quotes ends the name. -/
def isNamed (q : Quotes) (text : List Char) : Bool :=
  match text with
  | '\x7b' :: rest =>
    let isInName (c : Char) : Bool := c != '\x7d' && c != q.mark
    (rest.dropWhile isInName).head? == some '\x7d' &&
      Text.isCharacterName (rest.takeWhile isInName)
  | _ => false

/-- Whether what a letter behind a backslash needs follows it. -/
def isEscape (q : Quotes) (c : Char) (rest : List Char) : Bool :=
  if c == 'N' && !q.isRaw && !q.isBytes then isNamed q rest
  else
    let digits := rest.take (escapeDigits q c)
    digits.length == escapeDigits q c && digits.all (fun d => (Text.hexValue? d).isSome) &&
      Text.readHex digits ≤ 0x10ffff

/-- What follows a text in quotes, behind the quotes at its beginning. -/
def afterBody? (q : Quotes) : List Char → Option (List Char)
  | [] => none
  | '\\' :: c :: rest =>
    if isEscape q c rest && !(q.isBytes && 0x80 ≤ c.toNat) then afterBody? q rest else none
  | a :: rest =>
    if q.isBytes && 0x80 ≤ a.toNat then none
    else if a == q.mark then
      if !q.isTriple then some rest
      else match rest with
        | b :: c :: after => if b == a && c == a then some after else afterBody? q (b :: c :: after)
        | short => afterBody? q short
    else if a == '\n' && !q.isTriple then none
    else afterBody? q rest

/-- What follows a text in quotes of a kind, which begins with a quote. -/
def afterQuoted? (isRaw isBytes : Bool) : List Char → Option (List Char)
  | a :: b :: c :: rest =>
    if a == b && b == c then afterBody? ⟨a, true, isRaw, isBytes⟩ rest
    else afterBody? ⟨a, false, isRaw, isBytes⟩ (b :: c :: rest)
  | a :: rest => afterBody? ⟨a, false, isRaw, isBytes⟩ rest
  | [] => none

/-- The letters before a text in quotes, as whether it is raw and whether it is one of bytes. -/
def quoteLetters? (letters : List Char) : Option (Bool × Bool) :=
  match letters.map Char.toLower with
  | [] => some (false, false)
  | ['u'] => some (false, false)
  | ['r'] => some (true, false)
  | ['b'] => some (false, true)
  | ['r', 'b'] => some (true, true)
  | ['b', 'r'] => some (true, true)
  | _ => none

/-- The letters of the word before the empty set, each in all its forms. -/
def setLetters : List (List Char) := [
  ['s', 'ſ', 'ˢ', 'ₛ', 'ｓ', '𝐬', '𝑠', '𝒔', '𝓈', '𝓼', '𝔰', '𝕤', '𝖘', '𝗌', '𝘀', '𝘴', '𝙨', '𝚜'],
  ['e', 'ᵉ', 'ₑ', 'ℯ', 'ⅇ', 'ｅ', '𝐞', '𝑒', '𝒆', '𝓮', '𝔢', '𝕖', '𝖊', '𝖾', '𝗲', '𝘦', '𝙚', '𝚎'],
  ['t', 'ᵗ', 'ₜ', 'ｔ', '𝐭', '𝑡', '𝒕', '𝓉', '𝓽', '𝔱', '𝕥', '𝖙', '𝗍', '𝘁', '𝘵', '𝙩', '𝚝']]

/-- Whether a word is the one before the empty set. -/
def isSetWord (word : List Char) : Bool :=
  word.length == setLetters.length && (word.zip setLetters).all fun (c, forms) => forms.contains c

/-- The token of a word. -/
def wordToken? (word : List Char) : Option Token :=
  if isSetWord word then some .setWord
  else if ["True", "False", "None"].contains (String.ofList word) then some .constant
  else none

/-- A word or a text in quotes that letters may precede, and what follows. -/
def afterWord? (text : List Char) : Option (Token × List Char) :=
  let word := text.takeWhile isWordChar
  let rest := text.dropWhile isWordChar
  if rest.head?.any fun c => c == '"' || c == '\'' then do
    let (isRaw, isBytes) ← quoteLetters? word
    pure (.quoted isBytes, ← afterQuoted? isRaw isBytes rest)
  else (wordToken? word).map (·, rest)

/-- The marks of literals. -/
def marks : List Char := ['(', ')', '{', '}', ',', ':', '+', '-']

/-- The first token of a text and what follows. -/
def nextToken? : List Char → Option (Token × List Char)
  | [] => none
  | '.' :: '.' :: '.' :: rest => some (.constant, rest)
  | c :: rest =>
    if marks.contains c then some (.mark c, rest)
    else if c.isDigit || c == '.' then
      (afterNumber? (c :: rest)).map fun (sort, after) => (.number sort, after)
    else afterWord? (c :: rest)

/-- How deep the text behind a token is in brackets, of which there may be two hundred. -/
def depthAfter? (depth : Nat) (token : Token) : Option Nat :=
  if token == .mark '(' || token == .mark '\x7b' then
    if depth < 200 then some (depth + 1) else none
  else if token == .mark ')' || token == .mark '\x7d' then some (depth - 1)
  else some depth

/-- Whether a character is white space in a line. -/
def isLineBlank (c : Char) : Bool := c == ' ' || c == '\t' || c == '\x0c'

/-- The text from the next line feed on. -/
def skipLine (text : List Char) : List Char := text.dropWhile (· != '\n')

/-- The column of the first character of a line that is no white space, and the text from there
on. If the line is continued behind a backslash, the column of the first backslash counts, unless
that is at the beginning of the line; behind a backslash there is another line. -/
def indent? (column firstSlash : Nat) : List Char → Option (Nat × List Char)
  | [] => some (column, [])
  | '\\' :: rest =>
    match rest with
    | '\n' :: next :: rest =>
      indent? column (if firstSlash = 0 then column else firstSlash) (next :: rest)
    | _ => none
  | c :: rest =>
    if c == ' ' then indent? (column + 1) firstSlash rest
    else if c == '\t' then indent? ((column / 8 + 1) * 8) firstSlash rest
    else if c == '\x0c' then indent? 0 firstSlash rest
    else some (if firstSlash = 0 then column else firstSlash, c :: rest)

/-- The text without the lines of white space and comments at its beginning, if the first other
line is not indented. -/
def skipLines? : Nat → List Char → Option (List Char)
  | 0, _ => none
  | n + 1, text => do
    let (column, rest) ← indent? 0 0 text
    match rest with
    | [] => pure []
    | c :: rest =>
      if c == '\n' then skipLines? n rest
      else if c == '#' then
        match skipLine rest with
        | [] => pure []
        | _ :: rest => skipLines? n rest
      else if column = 0 then pure (c :: rest)
      else none

/-- The tokens of a text that is so deep in brackets, if there are no more steps than a number. -/
def tokensIn? : Nat → Nat → List Char → Option (List Token)
  | 0, _, _ => none
  | _, _, [] => some []
  | n + 1, depth, c :: rest =>
    if isLineBlank c then tokensIn? n depth rest
    else if c == '#' then tokensIn? n depth (skipLine rest)
    else if c == '\n' then
      if 0 < depth then tokensIn? n depth rest
      else if (skipLines? n rest) == some [] then some []
      else none
    else match c, rest with
      | '\\', '\n' :: next :: rest => tokensIn? n depth (next :: rest)
      | _, _ => do
        let (token, rest) ← nextToken? (c :: rest)
        let others ← tokensIn? n (← depthAfter? depth token) rest
        pure (token :: others)

/-- The tokens of a text. -/
def tokens? (text : List Char) : Option (List Token) := do
  let text := Text.foldEndings text
  let rest ← skipLines? (text.length + 1) text
  tokensIn? (rest.length + 1) 0 rest

end Protogen.Markup.Literal
