import Protogen.Path
import Protogen.Failure

/-!
# Import statements

A `Statement` is a line with an import, cut at the imported path.

* `Statement.read` cuts a line at its first import.
* `Statement.replacePath` puts another path in the place of the imported one.
* `Statement.importedFile` is the file that the path stands for.
-/

set_option autoImplicit false

namespace Protogen.Import

/-- The beginning of an import. -/
def opening : String := "require('"

/-- The end of an import. -/
def closing : String := "')"

/-- A line with an import, and the directory of its file. -/
structure Statement where
  directory : Path
  /-- the line up to the path -/
  before : String
  path : String
  /-- the line behind the path -/
  after : String
  deriving DecidableEq, Repr

/-- Whether a line begins an import. -/
def isDeclaredIn (line : List Char) : Bool := Text.occurs opening.toList line

namespace Statement

/-- Cuts a line at its first import. -/
def read (directory : Path) (line : String) : Except MalformedImport Statement :=
  match Text.cut? opening.toList line.toList with
  | none => .error (.missingStart line)
  | some (before, rest) =>
    match Text.cut? closing.toList rest with
    | none => .error (.unterminated line)
    | some (path, after) =>
      .ok ⟨directory, String.ofList before ++ opening, String.ofList path,
        closing ++ String.ofList after⟩

/-- The whole line. -/
def text (s : Statement) : String := s.before ++ s.path ++ s.after

/-- The number of characters before the path. -/
def start (s : Statement) : Nat := s.before.length

/-- The number of characters up to the end of the path. -/
def stop (s : Statement) : Nat := s.before.length + s.path.length

/-- The line with another path. -/
def replacePath (s : Statement) (path : String) : Statement := { s with path := path }

/-- Whether the path is relative to the directory of the file. -/
def isRelative (s : Statement) : Bool :=
  Text.startsWith "./" s.path || Text.startsWith "../" s.path

/-- The file that the path stands for. -/
def importedFile (s : Statement) : Path := (s.directory.join (Path.read s.path)).normalize

end Statement

end Protogen.Import
