import Protogen.Proofs.Script.Basic

/-!
# Reading scripts

The reader takes the lines of a function and finds the block structure that their braces spell;
indentation and empty lines do not count.

* `readAccess`, `readTest`, `readConversion` read the parts of a line. A conversion is cut at its
  operand, which is the first place behind an opening bracket from which the rest is an access.
* `Phrase` is what a single line says, `readPhrase` reads one.
* `Reading` holds the blocks that are open, `Reading.step` reads one more line.
* `Program.read` reads a whole function.
-/

set_option autoImplicit false

namespace Protogen.Script

open Text

/-! ## Parts of lines -/

/-- Characters of identifiers; all characters beyond ASCII are taken for letters. -/
def isIdentifierChar (c : Char) : Bool := c.isAlphanum || c == '_' || c == '$' || 127 < c.toNat

/-- Whether a text is an identifier. -/
def isIdentifier (text : List Char) : Bool :=
  text.all isIdentifierChar && !text.isEmpty && !(text.head?.any Char.isDigit)

/-- The identifier at the beginning of a text and what follows it. -/
def takeIdentifier (text : List Char) : Option (List Char × List Char) :=
  let name := text.takeWhile isIdentifierChar
  if isIdentifier name then some (name, text.dropWhile isIdentifierChar) else none

/-- Reads a whole text as an identifier. -/
def readName (text : List Char) : Option String :=
  if isIdentifier text then some (String.ofList text) else none

/-- Reads an access. -/
def readAccess (text : List Char) : Option Access := do
  let (object, rest) ← takeIdentifier text
  match rest with
  | [] => some (.var (String.ofList object))
  | '.' :: rest =>
    let (key, rest) ← takeIdentifier rest
    match rest with
    | [] => some (.property (String.ofList object) (String.ofList key))
    | rest =>
      if rest = entryText.toList then some (.entry (String.ofList object) (String.ofList key))
      else none
  | _ => none

/-- Reads a comparison. -/
def readComparison (text : List Char) : Option Comparison :=
  match dropStart? ownsText.toList text with
  | some rest => do some (.owns (← readAccess (← dropEnd? ownsEnd.toList rest)))
  | none =>
    match dropEnd? isNullText.toList text with
    | some value => (readAccess value).map .isNull
    | none =>
      match dropEnd? isDefinedText.toList text with
      | some value => (readAccess value).map .isDefined
      | none => do (readAccess (← dropEnd? isNotNullText.toList text)).map .isNotNull

/-- Reads a test. -/
def readTest (text : List Char) : Option Test :=
  match cut? bothText.toList text with
  | some (first, second) => do some (.both (← readComparison first) (← readComparison second))
  | none => (readComparison text).map .one

/-- Cuts a text at the first opening bracket behind which the rest is an access. -/
def cutOperand (bracket : Char) : List Char → Option (List Char × Access)
  | [] => none
  | c :: text =>
    match if c = bracket then readAccess text else none with
    | some access => some ([], access)
    | none => (cutOperand bracket text).map fun parts => (c :: parts.1, parts.2)

/-- The conversion that a function or a parser stands for. -/
def readFunction (name : List Char) : Option Conversion :=
  if name = integerFunction.toList then some .integer
  else if name = decimalFunction.toList then some .decimal
  else do
    let url ← dropEnd? parserEnd.toList (← dropStart? parserStart.toList name)
    some (.parsed (String.ofList url))

/-- Reads a conversion with its operand. -/
def readConversion (text : List Char) : Option (Conversion × Access) :=
  match readAccess text with
  | some raw => some (.plain, raw)
  | none =>
    match dropEnd? truthText.toList text with
    | some rest => do some (.truth, ← readAccess (← dropStart? ['('] rest))
    | none =>
      match dropEnd? [')'] text with
      | some rest => do
        let (name, raw) ← cutOperand '(' rest
        some (← readFunction name, raw)
      | none => do
        let (typeName, raw) ← cutOperand '[' (← dropEnd? [']'] text)
        some (.member (String.ofList typeName), raw)

/-- Reads an operand. -/
def readOperand (text : List Char) : Option Operand :=
  if text = ['n', 'u', 'l', 'l'] then some .null else (readName text).map .var

/-- Reads the arguments of a call; the blank behind a comma does not count. -/
def readArguments (text : List Char) : Option (List Operand) :=
  (text.splitOn ',').mapM fun argument => readOperand (argument.dropWhile (· == ' '))

/-- Cuts a text at its last opening bracket. -/
def cutLast (bracket : Char) (text : List Char) : Option (List Char × List Char) :=
  match text.reverse.dropWhile (· != bracket) with
  | [] => none
  | _ :: before => some (before.reverse, (text.reverse.takeWhile (· != bracket)).reverse)

/-! ## Lines -/

/-- What opens a block. -/
inductive Header
  | when (test : Test)
  | forEach (list : Access) (item : String)
  | forIn (object : Access)
  /-- the alternative of a condition that had a body -/
  | otherwise (test : Test) (body : List Statement)

/-- What a line says. -/
inductive Phrase
  | nothing
  | opening (header : Header)
  | otherwise
  | closing (suffix : String)
  | simple (statement : Statement)

/-- Reads the text in front of a body. -/
def readHeader (text : List Char) : Option Header :=
  match dropStart? ifText.toList text with
  | some rest => do
    let test ← readTest (← dropEnd? [')'] rest)
    some (.when test)
  | none =>
    match dropStart? forText.toList text with
    | some rest => do some (.forIn (← readAccess (← dropEnd? [')'] rest)))
    | none => do
      let (list, rest) ← cut? forEachText.toList text
      let item ← readName (← dropEnd? callbackText.toList rest)
      some (.forEach (← readAccess list) item)

/-- Reads a binding, behind its keyword. -/
def readBinding (text : List Char) : Option Statement := do
  let (name, expression) ← cut? equalsText.toList text
  let name ← readName name
  match (dropStart? newText.toList expression).bind (dropEnd? newEnd.toList) with
  | some typeName => some (.create name (String.ofList typeName))
  | none => do
    let (conversion, raw) ← readConversion expression
    some (.bind name conversion raw)

/-- Reads a call of an accessor. -/
def readCall (text : List Char) : Option Statement := do
  let (callee, arguments) ← cutLast '(' (← dropEnd? [')'] text)
  let (message, accessor) ← cut? ['.'] callee
  some (.merge (← readName message) (String.ofList accessor) (← readArguments arguments))

/-- Reads a statement of one line, up to its semicolon. -/
def readSimple (text : List Char) : Option Statement :=
  match dropStart? letText.toList text with
  | some rest => readBinding rest
  | none =>
    match dropStart? returnText.toList text with
    | some rest => (readOperand rest).map .leave
    | none => readCall text

/-- Reads a line without its indentation. -/
def readPhrase (text : List Char) : Option Phrase :=
  if text = [] then some .nothing
  else if text = otherwiseLine.text.toList then some .otherwise
  else match dropStart? ['\x7d'] text with
  | some suffix => some (.closing (String.ofList suffix))
  | none =>
    match dropEnd? [' ', '\x7b'] text with
    | some header => (readHeader header).map .opening
    | none => do (readSimple (← dropEnd? [';'] text)).map .simple

/-! ## Blocks -/

/-- The statement that a header makes of a body, if the block is closed as it has to be. -/
def Header.close : Header → List Statement → String → Option Statement
  | .when test, body, suffix => if suffix = "" then some (.when test body) else none
  | .otherwise test first, body, suffix =>
    if suffix = "" then some (.choose test first body) else none
  | .forEach list item, body, suffix =>
    if suffix = ");" then some (.forEach list item body) else none
  | .forIn object, body, suffix =>
    if suffix = "" then some (.forIn object body) else none

/-- The statements of the innermost open block, and the headers of the open blocks with the
statements in front of them, innermost first. -/
structure Reading where
  body : List Statement := []
  outer : List (Header × List Statement) := []

namespace Reading

/-- Takes in what one more line says. -/
def take (r : Reading) : Phrase → Option Reading
  | .nothing => some r
  | .simple statement => some { r with body := r.body ++ [statement] }
  | .opening header => some ⟨[], (header, r.body) :: r.outer⟩
  | .otherwise =>
    match r.outer with
    | (.when test, before) :: outer => some ⟨[], (.otherwise test r.body, before) :: outer⟩
    | _ => none
  | .closing suffix =>
    match r.outer with
    | (header, before) :: outer =>
      (header.close r.body suffix).map fun statement => ⟨before ++ [statement], outer⟩
    | [] => none

/-- Reads one more line. -/
def step (r : Reading) (line : String) : Option Reading := do
  r.take (← readPhrase (line.toList.dropWhile (· == ' ')))

/-- Reads more lines. -/
def steps (r : Reading) (lines : List String) : Option Reading := lines.foldlM step r

end Reading

/-- Reads statements that are complete. -/
def readBody (lines : List String) : Option (List Statement) := do
  let r ← Reading.steps {} lines
  if r.outer.isEmpty then some r.body else none

/-- Reads the first line of a function. -/
def readFunctionHeader (line : String) : Option (String × String) := do
  let (before, argument) ← cutLast '(' (← dropEnd? [')', ' ', '\x7b'] line.toList)
  let name ← dropEnd? functionText.toList before
  some (String.ofList name, ← readName argument)

/-- Reads a function from its lines. -/
def Program.read : List String → Option Program
  | [] => none
  | first :: rest => do
    let (name, argument) ← readFunctionHeader first
    let body ← readBody rest.dropLast
    if rest.getLast? = some "\x7d;" then some ⟨name, argument, body⟩ else none

end Protogen.Script
