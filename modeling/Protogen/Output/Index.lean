import Protogen.Output.File

/-!
# The index of types and parsers

The index imports the compiled file of every schema file with types, and lists the JavaScript
type of every URL and the parser of every URL that has one.

* `knownTypes` and `typeParsers` are the two tables, `indexImports` the imports.
* `renderIndex` is the text of the index.
-/

set_option autoImplicit false

namespace Protogen

/-- The file name of the index. -/
def indexFile : String := "index.js"

namespace Schema.FileSet

/-- URL and JavaScript type of every message and every enum of a set. -/
def knownTypes (s : FileSet) : Except NullPart (List (String × String)) := do
  let messages ← s.messageTypes
  let enums ← s.enumTypes
  pure (messages.map (fun t => (t.url, Naming.typeName (shownName t.fullName))) ++
    enums.map fun t => (t.url, Naming.typeName (shownName t.fullName)))

/-- URL and parser of every message that gets a parser. -/
def typeParsers (s : FileSet) : Except NullPart (List (String × String)) := do
  let parsers ← (← s.fileList).mapM fun item => do
    let types ← (← declared item).targetTypes MessageType.isEligible
    pure (types.map fun t => (t.url, t.parser))
  pure parsers.flatten

/-- The compiled files of the schema files that declare types. -/
def indexImports (s : FileSet) : Except NullPart (List String) := do
  let imports ← (← s.fileList).mapM fun item => do
    let file ← declared item
    let messages ← file.messageTypes
    let isEmpty ← if messages.isEmpty then (file.enumTypes).map List.isEmpty else pure false
    if isEmpty then pure none else (file.jsFile).map fun js => some ("./" ++ js)
  pure (imports.filterMap id)

/-- The entries of a table; a comma follows each but the last. -/
def tableEntries : List (String × String) → String
  | [] => ""
  | [entry] => "  ['" ++ entry.1 ++ "', " ++ entry.2 ++ "]\n"
  | entry :: entries => "  ['" ++ entry.1 ++ "', " ++ entry.2 ++ "],\n" ++ tableEntries entries

/-- An exported table. -/
def table (name : String) (entries : List (String × String)) : String :=
  "export const " ++ name ++ " = new Map([\n" ++ tableEntries entries ++ "]);\n"

/-- The text of the index for its imports and tables. -/
def indexText (imports : List String) (types parsers : List (String × String)) : String :=
  "// " ++ generatedMarker ++ "\n\n" ++
    String.join (imports.map fun path => "require('" ++ path ++ "');\n") ++
    table "types" types ++ "\n" ++ table "parsers" parsers

/-- The text of the index of a set. -/
def renderIndex (s : FileSet) : Except NullPart String := do
  let imports ← s.indexImports
  let types ← s.knownTypes
  let parsers ← s.typeParsers
  pure (indexText imports types parsers)

end Schema.FileSet

end Protogen
