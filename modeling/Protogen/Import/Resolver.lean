import Protogen.Import.Statement
import Protogen.Import.Module
import Protogen.Record
import Protogen.Text.Lines

/-!
# Resolution of imports

A `Resolver` knows where the standard types are generated, the external modules, and which files
are there. An import is resolved in this order.

1. The import of a standard type from its package is made relative to the generation root.
2. A relative import of a missing file is looked up among the main sources.
3. If it is missing there too, it becomes the import from the first module that provides it.

Imports that nothing resolves stay as they are.

* `Resolver.resolve` resolves a statement, and `Resolver.checked` unless a file that has to be
  looked up cannot be looked at.
* `Statement.fromModules` is the last of these steps, with the faults that a look-up among modules
  can end with.
* `Resolver.resolveText` resolves every line of a text that begins an import; the first line for
  which that is not possible ends it.
* `Resolver.trail` and `Resolver.textTrail` are the records of what they did.
-/

set_option autoImplicit false

namespace Protogen.Import

/-- What the resolution of imports depends on. -/
structure Resolver where
  /-- the directory under which the standard types are generated -/
  root : Path
  modules : List Module
  /-- whether there is a file or a directory at a path -/
  isPresent : Path → Bool
  /-- why a path cannot be looked at -/
  lookFault? : Path → Option FileFault
  /-- the names from the root to the directory that relative paths start from -/
  workingDirectory : List String

/-- The package of the standard types. -/
def standardModule : String := "google-protobuf/"

/-- The beginning of imports of standard types. -/
def wellKnownStart : String := "google-protobuf/google/protobuf/"

/-- The way from the test sources to the main ones. -/
def mainSources : String := "../main/"

/-- Cuts a path behind the markers `./` and `../` that it begins with. -/
def cutMarkers : List Char → List Char × List Char
  | '.' :: '.' :: '/' :: rest =>
    let (markers, rest) := cutMarkers rest
    ('.' :: '.' :: '/' :: markers, rest)
  | '.' :: '/' :: rest =>
    let (markers, rest) := cutMarkers rest
    ('.' :: '/' :: markers, rest)
  | path => ([], path)

/-- The path among the main sources. -/
def mainPath (path : String) : String :=
  let (markers, rest) := cutMarkers path.toList
  String.ofList markers ++ mainSources ++ String.ofList rest

namespace Statement

/-- Whether a standard type is imported from its package. -/
def isWellKnown (s : Statement) : Bool := Text.startsWith wellKnownStart s.path

/-- The statement with its file looked up among the main sources. -/
def inMainSources (s : Statement) : Statement := s.replacePath (mainPath s.path)

/-- The statement as an import from the first of some modules that provides its path, or as it is
if none does. -/
def fromModules (s : Statement) (modules : List Module) : Except ModuleFault Statement :=
  match firstProviding modules s.path with
  | none => .ok s
  | some m => (m.fileIn s.path).map s.replacePath

end Statement

namespace Resolver

/-- What the package of the standard types is replaced with in a directory. -/
def standardReplacement (r : Resolver) (directory : Path) : String :=
  let way := Path.relative r.workingDirectory directory r.root
  if way.parts.isEmpty then "./"
  else String.ofList (way.text.toList.map fun c => if c == '\\' then '/' else c) ++ "/"

/-- The statement with the package of the standard types replaced by the way to the generation
root. -/
def relativize (r : Resolver) (s : Statement) : Statement :=
  s.replacePath (String.ofList (Text.replaceFirst standardModule.toList
    (r.standardReplacement s.directory).toList s.path.toList))

/-- Whether the imported file is there. -/
def finds (r : Resolver) (s : Statement) : Bool := r.isPresent s.importedFile

/-- Whether a statement imports a missing file by a relative path. -/
def isUnresolved (r : Resolver) (s : Statement) : Bool := s.isRelative && !r.finds s

/-- The statement resolved among the main sources, if the file is there. -/
def inMain? (r : Resolver) (s : Statement) : Option Statement :=
  if r.finds s.inMainSources then some s.inMainSources else none

/-- The statement resolved to the first module that provides its path. -/
def inModules (r : Resolver) (s : Statement) : Statement :=
  match (firstProviding r.modules s.path).bind (·.fileIn? s.path) with
  | some path => s.replacePath path
  | none => s

/-- The statement with an import of a standard type made relative. -/
def localize (r : Resolver) (s : Statement) : Statement :=
  if s.isWellKnown then r.relativize s else s

/-- Resolves a statement. -/
def resolve (r : Resolver) (s : Statement) : Statement :=
  let t := r.localize s
  if r.isUnresolved t then (r.inMain? t).getD (r.inModules t) else t

/-- The statements whose files are looked up when a statement is resolved, in order. -/
def looks (r : Resolver) (s : Statement) : List Statement :=
  let t := r.localize s
  if t.isRelative then if r.finds t then [t] else [t, t.inMainSources] else []

/-- Why the file of a statement cannot be looked at. -/
def faultOf? (r : Resolver) (s : Statement) : Option FileFault := r.lookFault? s.importedFile

/-- A value, unless the file of one of some statements cannot be looked at. -/
def guarded {α : Type} (r : Resolver) (looks : List Statement) (value : α) : Except Failure α :=
  match looks.findSome? r.faultOf? with
  | some fault => .error (.file fault)
  | none => .ok value

/-- Resolves a statement, unless a file cannot be looked at. -/
def checked (r : Resolver) (s : Statement) : Except Failure Statement :=
  r.guarded (r.looks s) (r.resolve s)

/-- The record of a look-up. -/
def look (r : Resolver) (s : Statement) : Record := .checked s.importedFile (r.finds s)

/-- The record of a replacement. -/
def replacement (s result : Statement) : List Record :=
  if result.path = s.path then [] else [.resolved s.path result.path]

/-- The records of the resolution of a statement, up to a file that cannot be looked at. -/
def trail (r : Resolver) (s : Statement) : List Record :=
  ((r.looks s).takeWhile fun t => (r.faultOf? t).isNone).map r.look ++
    match r.checked s with
    | .ok result => replacement s result
    | .error _ => []

/-- The statement in a line, if the line begins an import. -/
def statementIn (directory : Path) (line : Text.Line) :
    Except MalformedImport (Option Statement) :=
  if isDeclaredIn line.content then
    (Statement.read directory (String.ofList line.content)).map some
  else .ok none

/-- Resolves the import of a line, if it begins one. -/
def resolveLine (r : Resolver) (directory : Path) (line : Text.Line) :
    Except Failure Text.Line := do
  match ← failing .malformedImport (statementIn directory line) with
  | some s => pure { line with content := (← r.checked s).text.toList }
  | none => pure line

/-- Resolves every line of a text that begins an import, in a file of the directory. -/
def resolveText (r : Resolver) (directory : Path) (text : String) :
    Except Failure String :=
  ((Text.lines text.toList).mapM (r.resolveLine directory)).map fun ls =>
    String.ofList (Text.unlines ls)

/-- The records of lines up to the first that cannot be resolved. -/
def linesTrail (r : Resolver) (directory : Path) : List Text.Line → List Record
  | [] => []
  | line :: rest =>
    match statementIn directory line with
    | .error _ => []
    | .ok none => linesTrail r directory rest
    | .ok (some s) =>
      r.trail s ++ match r.checked s with
        | .ok _ => linesTrail r directory rest
        | .error _ => []

/-- The records of the resolution of a text. -/
def textTrail (r : Resolver) (directory : Path) (text : String) : List Record :=
  r.linesTrail directory (Text.lines text.toList)

end Resolver

end Protogen.Import
