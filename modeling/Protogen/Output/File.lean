import Protogen.Output.Parser

/-!
# The code generated for a schema file

* `targetTypes` are the messages of a file that get a parser.
* `renderParsers` is the text of all parsers of a file, with the imports they need;
  `renderTypeUrls` that of the functions that return the type URLs. A file without types has no
  such text.
* All parsers of a file are rendered before any text is returned, so one that fails fails the
  file.
-/

set_option autoImplicit false

namespace Protogen

open Code

/-- The comment that marks generated code. -/
def generatedMarker : String := "Generated by protojs. DO NOT EDIT!"

/-- The place of the runtime sources, seen from the output root. -/
def defaultRuntimeImport : String := "../client/parser/"

namespace Schema.File

/-- The messages of a file that get a parser. -/
def targetTypes (f : File) (eligible : MessageType → Bool) :
    Except NullPart (List MessageType) :=
  f.messageTypes.map (·.filter eligible)

/-- The path of the JavaScript file compiled from a file. -/
def jsFile (f : File) : Except NullPart String :=
  (declared f.name).map Naming.jsFileName

/-- The import of a runtime source. -/
def runtimeImport (name path : String) : String :=
  "let " ++ name ++ " = require('" ++ path ++ "').default;\n"

/-- The text around the parsers of a file. -/
def parsersText (runtimePath : String) (parsers : List String) : String :=
  "\n// " ++ generatedMarker ++ "\n\n" ++
    runtimeImport "ObjectParser" (runtimePath ++ "object-parser.js") ++
    runtimeImport "TypeParsers" (runtimePath ++ "type-parsers.js") ++
    String.join (parsers.map (· ++ "\n"))

/-- The parsers of a file, if it has any. -/
def renderParsers (f : File) (registry : Registry) (runtimePrefix : String)
    (eligible : MessageType → Bool) : Except Failure (Option String) := do
  let types ← failing .nullPart (f.targetTypes eligible)
  if types.isEmpty then pure none
  else do
    let parsers ← types.mapM fun t => t.renderParser registry
    let file ← failing .nullPart f.jsFile
    pure (some (parsersText (Naming.pathToRoot file ++ runtimePrefix) parsers))

/-- Full name and URL of the types of a file, messages first. -/
def typeUrls (f : File) : Except NullPart (List (Option String × String)) := do
  let messages ← f.messageTypes
  let enums ← f.enumTypes
  pure (messages.map (fun t => (t.fullName, t.url)) ++ enums.map fun t => (t.fullName, t.url))

/-- The function that returns the URL of a type. -/
def emitTypeUrl (fullName : Option String) (url : String) : Emission Unit := do
  Emission.blank
  Emission.line ("// " ++ generatedMarker)
  Emission.method (Naming.typeName (shownName fullName) ++ ".typeUrl") ""
    (Emission.line ("return '" ++ url ++ "';"))

/-- The functions that return the URLs of the types of a file, if it has any. -/
def renderTypeUrls (f : File) : Except Failure (Option String) := do
  let types ← failing .nullPart f.typeUrls
  if types.isEmpty then pure none
  else do
    let writer ← Emission.written (types.forM fun t => emitTypeUrl t.1 t.2)
    let text ← failing .scope writer.text
    pure (some (text ++ "\n"))

end Schema.File

end Protogen
