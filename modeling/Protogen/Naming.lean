import Protogen.Text.Basic
import Protogen.Text.Upper

/-!
# Names in the generated code

* `camelCase` is the JSON name of a field, `pascalCase` the name used in its accessors.
* `setter`, `adder` and `mapGetter` are the accessors of a field.
* `typeName` and `parserName` name what is generated for a type with a full name.
* `jsFileName` is the JavaScript file compiled from a schema file, `pathToRoot` the way from its
  directory back to the output root.
-/

set_option autoImplicit false

namespace Protogen.Naming

/-- Drops underscores; the character behind them is put in upper case, as is the first one if
`raised`. -/
def camelChars : Bool → List Char → List Char
  | _, [] => []
  | raised, c :: rest =>
    if c == '_' then camelChars true rest
    else (if raised then Text.upper c else [c]) ++ camelChars false rest

/-- A name in lower camel case. -/
def camelCase (name : String) : String := String.ofList (camelChars false name.toList)

/-- A text with its first character in upper case. -/
def capitalize : List Char → List Char
  | [] => []
  | c :: rest => Text.upper c ++ rest

/-- A name in Pascal case. -/
def pascalCase (name : String) : String :=
  String.ofList (capitalize (camelChars false name.toList))

/-- The JavaScript type of a message or an enum. -/
def typeName (fullName : String) : String := "proto." ++ fullName

/-- The parser generated for a message. -/
def parserName (fullName : String) : String := typeName fullName ++ ".Parser"

/-- The accessor that sets a field. -/
def setter (field : String) : String := "set" ++ pascalCase field

/-- The accessor that adds an element to a repeated field. -/
def adder (field : String) : String := "add" ++ pascalCase field

/-- The accessor that returns the map of a map field. -/
def mapGetter (field : String) : String := "get" ++ pascalCase field ++ "Map"

/-- The ending of schema files. -/
def schemaEnding : String := ".proto"

/-- The ending of compiled files. -/
def compiledEnding : String := "_pb.js"

/-- The JavaScript file compiled from a schema file. -/
def jsFileName (schemaFile : String) : String :=
  match Text.dropEnd? schemaEnding.toList schemaFile.toList with
  | some stem => String.ofList stem ++ compiledEnding
  | none => schemaFile ++ compiledEnding

/-- The way from the directory of a file to the root that its name starts from: one step up for
every separator. -/
def pathToRoot (file : String) : String :=
  let depth := file.toList.count '/'
  if depth = 0 then "./" else String.join (List.replicate depth "../")

end Protogen.Naming
