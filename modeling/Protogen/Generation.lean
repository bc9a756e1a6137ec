import Protogen.Output.Index
import Protogen.Import.File

/-!
# Generation for a set of schema files

A `Generation` works on the root of the compiled JavaScript files. Code is rendered for all
files before the first is written; texts for one path are put together and appended at once.

* `createParsers` and `appendTypeUrls` append to the compiled files, `writeIndex` writes the
  index, `resolveImports` resolves the imports of the compiled files.
* `run` does all of it, in this order.
-/

set_option autoImplicit false

namespace Protogen

open Schema

/-- What a generation depends on. -/
structure Generation where
  jsRoot : Path
  modules : List Import.Module := []
  /-- the root of the standard types, `jsRoot` if there is none -/
  generatedRoot : Option Path := none
  runtimeImport : String := defaultRuntimeImport

/-- Texts by path, each path once, in the order in which the paths came up. -/
abbrev Rendered := List (Path × String)

namespace Rendered

/-- Sets the text of a path. -/
def set (path : Path) (text : String) : Rendered → Rendered
  | [] => [(path, text)]
  | r :: rest => if r.1 = path then (path, text) :: rest else r :: set path text rest

/-- Puts a text behind that of a path. -/
def extend (path : Path) (text : String) : Rendered → Rendered
  | [] => [(path, text)]
  | r :: rest => if r.1 = path then (path, r.2 ++ text) :: rest else r :: extend path text rest

/-- The texts of several steps, put together by path. -/
def merge (steps : List Rendered) : Rendered :=
  steps.flatten.foldl (fun acc r => extend r.1 r.2 acc) []

end Rendered

namespace Generation

/-- The path of the compiled file of a schema file. -/
def jsPath (g : Generation) (file : File) : Except NullPart Path :=
  file.jsFile.map fun js => g.jsRoot.join (Path.read js)

/-- The paths of the compiled files of a set, as far as the files have names. -/
def compiledFiles (g : Generation) (s : FileSet) : List Path :=
  match s.fileList with
  | .ok items => items.filterMap fun item => ((declared item).bind g.jsPath).toOption
  | .error _ => []

/-- Renders the code of every file; a file without any is left out. -/
def renderEach (g : Generation) (s : FileSet) (render : File → Except Failure (Option String)) :
    Except Failure Rendered := do
  let files ← failing .nullPart s.fileList
  files.foldlM (fun rendered item => do
    let file ← failing .nullPart (declared item)
    match ← render file with
    | none => pure rendered
    | some text => do
      let path ← failing .nullPart (g.jsPath file)
      pure (Rendered.set path text rendered)) []

/-- The parsers of every file. -/
def renderParsers (g : Generation) (s : FileSet) (registry : Registry) :
    Except Failure Rendered :=
  g.renderEach s fun file => file.renderParsers registry g.runtimeImport MessageType.isEligible

/-- The functions that return type URLs, of every file. -/
def renderTypeUrls (g : Generation) (s : FileSet) : Except Failure Rendered :=
  g.renderEach s File.renderTypeUrls

/-- Appends a text to a file, which is created with its directory if need be. -/
def append (path : Path) (text : String) : Session Unit := do
  Session.makeDirectories path.parent
  Session.appendText path text
  Session.note [.appended path]

/-- Appends the texts of several steps. -/
def appendAll (steps : List Rendered) : Session Unit :=
  (Rendered.merge steps).forM fun r => append r.1 r.2

/-- Appends the parsers of every file. -/
def createParsers (g : Generation) (s : FileSet) (registry : Registry) : Session Unit := do
  appendAll [← Session.demand (g.renderParsers s registry)]

/-- Appends the functions that return type URLs, of every file. -/
def appendTypeUrls (g : Generation) (s : FileSet) : Session Unit := do
  appendAll [← Session.demand (g.renderTypeUrls s)]

/-- Writes the index and returns its path. -/
def writeIndex (g : Generation) (s : FileSet) : Session Path := do
  let path := g.jsRoot.join (Path.read indexFile)
  Session.makeDirectories path.parent
  Session.writeText path (← Session.demand (failing .nullPart s.renderIndex))
  Session.note [.wroteIndex path]
  pure path

/-- Resolves the imports of the compiled file of a schema file, if it is there; its path if one
was changed. -/
def resolveCompiled (g : Generation) (item : Option File) : Session (Option Path) := do
  let file ← Session.demand (failing .nullPart (declared item))
  let path ← Session.demand (failing .nullPart (g.jsPath file))
  if ← Session.isPresent path then
    let changed ← Import.resolveFile (g.generatedRoot.getD g.jsRoot) g.modules path
    pure (if changed then some path else none)
  else pure none

/-- Resolves the imports of all compiled files and returns the paths of the changed ones. -/
def resolveImports (g : Generation) (s : FileSet) : Session (List Path) := do
  let files ← Session.demand (failing .nullPart s.fileList)
  let changed ← files.mapM g.resolveCompiled
  pure (changed.filterMap id)

/-- Generates everything and resolves the imports. -/
def run (g : Generation) (s : FileSet) : Session Unit := do
  let registry ← Session.demand (failing .nullPart (Registry.ofFileSet s))
  let parsers ← Session.demand (g.renderParsers s registry)
  let typeUrls ← Session.demand (g.renderTypeUrls s)
  appendAll [parsers, typeUrls]
  let _ ← g.writeIndex s
  let _ ← g.resolveImports s

end Generation

end Protogen
