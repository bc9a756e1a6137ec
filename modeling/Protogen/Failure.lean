import Protogen.Json.Parser
import Protogen.Markup.Fault
import Protogen.Template.Fault

/-!
# What can go wrong

One type for each kind of cause, `Failure` for any of them, and the wording of every cause in
its function `message`.

* `Inconsistency`: a schema that cannot be turned into parsing code.
* `Unregistered`: a type that the registry does not know.
* `ScopeFault`: scopes of generated code that do not match.
* `DecodeFault`: a document that is no schema.
* `NullPart`: a part of a schema that is null where it is needed.
* `MalformedImport`: an import that is started and not completed.
* `ModuleFault`: a directory pattern or a module configuration that cannot be used.
* `FileFault`: a file operation that is not possible.
-/

set_option autoImplicit false

namespace Protogen

/-- A name in a message; a missing one is shown as such. -/
def shownName (name : Option String) : String := name.getD "None"

/-- Why a schema cannot be turned into parsing code. -/
inductive Inconsistency
  /-- a reference (`enum` or `message`) without the name of its type -/
  | missingTypeName (keyword : String)
  | unknownType (name : Option String)
  /-- a field with neither a type nor a map -/
  | untypedField (field : Option String)
  | notMap (field : Option String)
  | invalidKeyType (field : Option String) (type : String)
  /-- a map key of a kind that no key has -/
  | keyKind (kind : String)
  /-- a map key of a scalar type that no key has -/
  | keyType (scalar : String)
  deriving DecidableEq, Repr

/-- The wording of an inconsistency. -/
def Inconsistency.message : Inconsistency → String
  | .missingTypeName keyword => keyword ++ " type has no type name"
  | .unknownType name => "Unknown value type: " ++ shownName name
  | .untypedField field => "Field " ++ shownName field ++ " declares neither a type nor a map"
  | .notMap field => "Field " ++ shownName field ++ " is not a map"
  | .invalidKeyType field type =>
    "Map field " ++ shownName field ++ " has an invalid key type " ++ type
  | .keyKind kind => "Map keys cannot be of kind " ++ kind
  | .keyType scalar => "Map keys cannot be of type " ++ scalar

/-- A look-up that finds no type. -/
inductive Unregistered
  | name (fullName : Option String)
  | url (address : Option String)
  deriving DecidableEq, Repr

/-- The wording of a failed look-up. -/
def Unregistered.message : Unregistered → String
  | .name fullName => "Type " ++ shownName fullName ++ " is not known to the registry"
  | .url address => "No type registered under " ++ shownName address

/-- Scopes that do not match. -/
inductive ScopeFault
  | elseOutsideIf
  | nothingToExit
  | notInMethod
  | appendOpen
  /-- open scopes at the end, outermost first -/
  | leftOpen (scopes : List String)
  deriving DecidableEq, Repr

/-- The wording of a scope fault. -/
def ScopeFault.message : ScopeFault → String
  | .elseOutsideIf => "`else` must directly follow an `if` scope"
  | .nothingToExit => "No scope to exit"
  | .notInMethod => "Not inside a method"
  | .appendOpen => "Cannot append a writer with open scopes"
  | .leftOpen scopes =>
    toString scopes.length ++ " scope(s) left open: " ++ Text.quoteList scopes

/-- The shapes of JSON values that messages name. -/
inductive JsonShape
  | int
  | float
  | bool
  | str
  | list
  | dict
  deriving DecidableEq, Repr

/-- The word for a shape. -/
def JsonShape.word : JsonShape → String
  | .int => "int"
  | .float => "float"
  | .bool => "bool"
  | .str => "str"
  | .list => "list"
  | .dict => "dict"

/-- Why a document is no schema. -/
inductive DecodeFault
  /-- an object is wanted -/
  | notObject
  /-- a list is wanted -/
  | notIterable (found : JsonShape)
  /-- a member without a default is absent -/
  | missing (member : String)
  /-- a text that spells no whole number -/
  | badNumber (text : String)
  /-- a text of more digits than are read -/
  | hugeNumber (digits : Nat)
  /-- a number is wanted -/
  | notNumber (found : JsonShape)
  | infiniteNumber
  | notANumber
  deriving DecidableEq, Repr

/-- The wording for a whole number of too many digits. -/
def hugeNumberMessage (digits : Nat) : String :=
  "Exceeds the limit (4300 digits) for integer string conversion: value has " ++
    toString digits ++ " digits; use sys.set_int_max_str_digits() to increase the limit"

/-- A text that is quoted in a message, of which the first 200 characters are shown. -/
def excerpt (text : String) : String := String.ofList ((Text.quote text).toList.take 200)

/-- The wording of a decoding fault. -/
def DecodeFault.message : DecodeFault → String
  | .notObject => "not an object"
  | .notIterable found => "'" ++ found.word ++ "' object is not iterable"
  | .missing member => Text.quote member
  | .badNumber text => "invalid literal for int() with base 10: " ++ excerpt text
  | .hugeNumber digits => hugeNumberMessage digits
  | .notNumber found => "int() argument must be a string, a bytes-like object or a real number, " ++
    "not '" ++ found.word ++ "'"
  | .infiniteNumber => "cannot convert float infinity to integer"
  | .notANumber => "cannot convert float NaN to integer"

/-- A part of a schema that is null where it is needed. -/
inductive NullPart
  /-- a list whose elements are wanted, or a name that is to be converted -/
  | sequence
  /-- a declaration of which a part is wanted -/
  | declaration
  deriving DecidableEq, Repr

/-- An import that is started and not completed, with its line. -/
inductive MalformedImport
  | missingStart (line : String)
  | unterminated (line : String)
  deriving DecidableEq, Repr

/-- The wording of a malformed import. -/
def MalformedImport.message : MalformedImport → String
  | .missingStart line =>
    "An import statement should look like `require('...')`: " ++ line
  | .unterminated line => "Unterminated import statement: " ++ line

/-- Directory patterns and module configurations that cannot be used. -/
inductive ModuleFault
  | emptyPattern
  | patternMismatch (pattern directory : String)
  | notProvided (module reference : String)
  /-- a configuration that is no object of lists, with the path of its file -/
  | badConfig (path : String)
  deriving DecidableEq, Repr

/-- The wording of a module fault. -/
def ModuleFault.message : ModuleFault → String
  | .emptyPattern => "Directory pattern must not be empty"
  | .patternMismatch pattern directory => pattern ++ " does not match " ++ directory
  | .notProvided module reference => "Module " ++ module ++ " does not provide " ++ reference
  | .badConfig path => path ++ ": expected an object of module names to pattern lists"

/-- File operations that are not possible. -/
inductive FileFault
  | notFound
  | alreadyExists
  | isDirectory
  | notDirectory
  | nameTooLong
  deriving DecidableEq, Repr

/-- The wording of a JSON text that cannot be read. -/
def Json.Failure.message : Json.Failure → String
  | .malformed error => error.message
  | .hugeNumber digits => hugeNumberMessage digits
  | .tooDeep isList => "maximum recursion depth exceeded while decoding a JSON " ++
    (if isList then "array" else "object") ++ " from a unicode string"

/-- Any cause of failure. -/
inductive Failure
  | inconsistent (cause : Inconsistency)
  | unregistered (cause : Unregistered)
  | scope (cause : ScopeFault)
  | template (cause : Template.Fault)
  | json (cause : Json.Failure)
  | document (cause : DecodeFault)
  | nullPart (cause : NullPart)
  | malformedImport (cause : MalformedImport)
  | modules (cause : ModuleFault)
  | file (cause : FileFault)
  | markup (cause : Markup.Fault)
  deriving DecidableEq, Repr

/-- The wording of a failure. -/
def Failure.message : Failure → String
  | .inconsistent cause => cause.message
  | .unregistered cause => cause.message
  | .scope cause => cause.message
  | .template cause => cause.message
  | .json cause => cause.message
  | .document cause => cause.message
  | .nullPart .sequence => "a list or a name is null"
  | .nullPart .declaration => "a declaration is null"
  | .malformedImport cause => cause.message
  | .modules cause => cause.message
  | .file .notFound => "No such file or directory"
  | .file .alreadyExists => "File exists"
  | .file .isDirectory => "Is a directory"
  | .file .notDirectory => "Not a directory"
  | .file .nameTooLong => "File name too long"
  | .markup cause => cause.message

/-- Names a cause that stopped a computation. -/
def failing {ε α : Type} (cause : ε → Failure) (result : Except ε α) : Except Failure α :=
  result.mapError cause

end Protogen
