import Protogen.Field.Parsing

/-!
# Scripts

The generated parsers are written in a small language of blocks: conditions, two kinds of loop,
bindings, calls that merge a value into the message, and `return`. Expressions that convert a raw
value are opaque; only their operand is looked into. One variable, `propertyName`, holds the name
of the property that a loop over an object visits.

* `Access` is a place where code reads a raw value, `Test` a condition on such places.
* `Conversion` tells the converting expressions apart.
* `Statement` is the syntax of code, `Program` a function with its body.
* `Statement.lines` writes a statement, each line relative to the depth at which it starts. The
  texts that its lines are put together from have names, which the reader shares.
-/

set_option autoImplicit false

namespace Protogen.Script

open Code

/-- Where code reads a raw value. -/
inductive Access
  | var (name : String)
  | property (object key : String)
  /-- the property of `object.key` with the name that is being visited -/
  | entry (object key : String)
  deriving DecidableEq, Repr

/-- What follows an object to read the property that is being visited. -/
def entryText : String := "[" ++ FieldToParse.propertyName ++ "]"

/-- How an access is written. -/
def Access.text : Access → String
  | .var name => name
  | .property object key => object ++ "." ++ key
  | .entry object key => object ++ "." ++ key ++ entryText

/-! ## Tests -/

/-- What follows a value that is to be `null`. -/
def isNullText : String := " === null"

/-- What follows a value that is not to be `undefined`. -/
def isDefinedText : String := " !== undefined"

/-- What follows a value that is not to be `null`. -/
def isNotNullText : String := " !== null"

/-- What precedes an object that is to have a property of its own. -/
def ownsText : String := "Object.prototype.hasOwnProperty.call("

/-- What follows such an object. -/
def ownsEnd : String := ", " ++ FieldToParse.propertyName ++ ")"

/-- What stands between two tests that both have to hold. -/
def bothText : String := " && "

/-- What a single comparison asks. -/
inductive Comparison
  | isNull (value : Access)
  | isDefined (value : Access)
  | isNotNull (value : Access)
  /-- whether the property that is being visited is one of the object's own -/
  | owns (object : Access)
  deriving DecidableEq, Repr

/-- How a comparison is written. -/
def Comparison.text : Comparison → String
  | .isNull value => value.text ++ isNullText
  | .isDefined value => value.text ++ isDefinedText
  | .isNotNull value => value.text ++ isNotNullText
  | .owns object => ownsText ++ object.text ++ ownsEnd

/-- One comparison, or two that both have to hold. -/
inductive Test
  | one (comparison : Comparison)
  | both (first second : Comparison)
  deriving DecidableEq, Repr

/-- How a test is written. -/
def Test.text : Test → String
  | .one comparison => comparison.text
  | .both first second => first.text ++ bothText ++ second.text

/-! ## Conversions -/

/-- The function that reads whole numbers. -/
def integerFunction : String := "parseInt"

/-- The function that reads decimal numbers. -/
def decimalFunction : String := "parseFloat"

/-- What follows a raw value that is to be the text `true`. -/
def truthText : String := " === 'true')"

/-- What precedes the URL of a parser. -/
def parserStart : String := "TypeParsers.parserFor('"

/-- What follows the URL of a parser. -/
def parserEnd : String := "').fromObject"

/-- How an expression makes a value from a raw one. -/
inductive Conversion
  /-- the raw value itself -/
  | plain
  | integer
  | decimal
  /-- whether the raw value is the text `true` -/
  | truth
  /-- the member of an enum type -/
  | member (typeName : String)
  /-- the parser that is registered for a URL -/
  | parsed (url : String)
  deriving DecidableEq, Repr

/-- How the conversion of a raw value is written. -/
def Conversion.text : Conversion → String → String
  | .plain, raw => raw
  | .integer, raw => integerFunction ++ "(" ++ raw ++ ")"
  | .decimal, raw => decimalFunction ++ "(" ++ raw ++ ")"
  | .truth, raw => "(" ++ raw ++ truthText
  | .member typeName, raw => typeName ++ "[" ++ raw ++ "]"
  | .parsed url, raw => parserStart ++ url ++ parserEnd ++ "(" ++ raw ++ ")"

/-! ## Statements -/

/-- What is handed to a call or returned. -/
inductive Operand
  | null
  | var (name : String)
  deriving DecidableEq, Repr

/-- How an operand is written. -/
def Operand.text : Operand → String
  | .null => "null"
  | .var name => name

/-- The syntax of code. -/
inductive Statement
  | when (test : Test) (body : List Statement)
  | choose (test : Test) (body otherwise : List Statement)
  | forEach (list : Access) (item : String) (body : List Statement)
  | forIn (object : Access) (body : List Statement)
  /-- binds a converted raw value to a variable -/
  | bind (name : String) (conversion : Conversion) (raw : Access)
  /-- binds a new message to a variable -/
  | create (name typeName : String)
  /-- calls an accessor of the message that a variable holds -/
  | merge (message accessor : String) (arguments : List Operand)
  | leave (result : Operand)

/-- A function of one argument. -/
structure Program where
  name : String
  argument : String
  body : List Statement

/-! ## Lines -/

/-- The beginning of a condition. -/
def ifText : String := "if ("

/-- The beginning of a loop over the properties of an object. -/
def forText : String := "for (let " ++ FieldToParse.propertyName ++ " in "

/-- What follows the list in a loop over its elements. -/
def forEachText : String := ".forEach(("

/-- What follows the variable of such a loop. -/
def callbackText : String := ", index, array) =>"

/-- The beginning of a binding. -/
def letText : String := "let "

/-- What stands between a variable and what is bound to it. -/
def equalsText : String := " = "

/-- What precedes the type of a new message. -/
def newText : String := "new "

/-- What follows the type of a new message. -/
def newEnd : String := "()"

/-- The beginning of the statement that leaves a function. -/
def returnText : String := "return "

/-- What stands between the name of a function and its argument. -/
def functionText : String := " = function"

/-- The text in front of the body of a condition. -/
def whenHeader (test : Test) : String := ifText ++ test.text ++ ")"

/-- The text in front of the body that runs for every element of a list. -/
def forEachHeader (list : Access) (item : String) : String :=
  list.text ++ forEachText ++ item ++ callbackText

/-- The text in front of the body that runs for every property of an object. -/
def forInHeader (object : Access) : String := forText ++ object.text ++ ")"

/-- The line that opens a block. -/
def openingLine (header : String) : Line := ⟨0, header ++ " \x7b"⟩

/-- The line that closes a block. -/
def closingLine (suffix : String) : Line := ⟨0, "\x7d" ++ suffix⟩

/-- The line between the two blocks of a condition. -/
def otherwiseLine : Line := ⟨0, "\x7d else \x7b"⟩

/-- The arguments of a call. -/
def argumentsText (arguments : List Operand) : String :=
  String.intercalate ", " (arguments.map Operand.text)

/-- A line that is a statement of its own. -/
def simpleLine (text : String) : List Line := [⟨0, text ++ ";"⟩]

/-- The lines of a block. -/
def blockLines (header suffix : String) (body : List Line) : List Line :=
  openingLine header :: body.map (Writer.shift 1) ++ [closingLine suffix]

mutual

/-- The lines of a statement, relative to its depth. -/
def Statement.lines : Statement → List Line
  | .when test body => blockLines (whenHeader test) "" (linesOf body)
  | .choose test body otherwise =>
    openingLine (whenHeader test) :: (linesOf body).map (Writer.shift 1) ++
      otherwiseLine :: (linesOf otherwise).map (Writer.shift 1) ++ [closingLine ""]
  | .forEach list item body => blockLines (forEachHeader list item) ");" (linesOf body)
  | .forIn object body => blockLines (forInHeader object) "" (linesOf body)
  | .bind name conversion raw =>
    simpleLine (letText ++ name ++ equalsText ++ conversion.text raw.text)
  | .create name typeName =>
    simpleLine (letText ++ name ++ equalsText ++ newText ++ typeName ++ newEnd)
  | .merge message accessor arguments =>
    simpleLine (message ++ "." ++ accessor ++ "(" ++ argumentsText arguments ++ ")")
  | .leave result => simpleLine (returnText ++ result.text)

/-- The lines of statements, one after the other. -/
def linesOf : List Statement → List Line
  | [] => []
  | statement :: rest => statement.lines ++ linesOf rest

end

end Protogen.Script
