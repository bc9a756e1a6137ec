import Protogen.Text.Basic
import Protogen.Text.Blank
import Protogen.Failure

/-!
# Directory patterns

A pattern is a directory that a module provides, with its subdirectories if it closes with `/*`.
A referenced directory matches when it ends up inside that directory: its first names are the
last names of the pattern.

* `Reference.split` cuts a reference into the names of its directory and the name of its file.
* `Pattern.read` and `Pattern.text` read and write patterns.
* `Pattern.overlap?` is the length of the longest overlap, `Pattern.inside?` the directory inside
  the module.
-/

set_option autoImplicit false

namespace Protogen.Import

/-- A reference to a file: the names of its directory and its own name. -/
structure Reference where
  directory : List String
  file : String
  deriving DecidableEq, Repr

/-- Whether a name belongs to a directory: markers of the present and the parent directory and
empty names do not. -/
def isDirectoryName (name : String) : Bool := name != "." && name != ".." && name != ""

/-- Cuts a reference at its last slash. -/
def Reference.split (reference : String) : Reference :=
  let names := Text.split '/' reference
  ⟨names.dropLast.filter isDirectoryName, names.getLastD ""⟩

/-- A directory, and whether its subdirectories belong to it. -/
structure Pattern where
  elements : List String
  nested : Bool := false
  deriving DecidableEq, Repr

/-- The mark of a pattern with subdirectories. -/
def nestedMark : String := "/*"

namespace Pattern

/-- Reads a pattern. -/
def read (text : String) : Except ModuleFault Pattern :=
  let trimmed := Text.trim text.toList
  let (directory, nested) := match Text.dropEnd? nestedMark.toList trimmed with
    | some directory => (directory, true)
    | none => (trimmed, false)
  let elements := (Text.split '/' (String.ofList directory)).filter (· != "")
  if elements.isEmpty then .error .emptyPattern else .ok ⟨elements, nested⟩

/-- Writes a pattern. -/
def text (p : Pattern) : String :=
  String.intercalate "/" p.elements ++ if p.nested then nestedMark else ""

/-- Whether the first `n` names of a directory are the last `n` names of the pattern. -/
def overlaps (p : Pattern) (directory : List String) (n : Nat) : Bool :=
  0 < n && n ≤ p.elements.length &&
    directory.take n == p.elements.drop (p.elements.length - n)

/-- The lengths that an overlap may have, longest first: without subdirectories only that of the
whole directory. -/
def candidates (p : Pattern) (directory : List String) : List Nat :=
  if p.nested then (List.range' 1 directory.length).reverse else [directory.length]

/-- The length of the longest overlap. -/
def overlap? (p : Pattern) (directory : List String) : Option Nat :=
  (p.candidates directory).find? (p.overlaps directory)

/-- Whether a directory ends up inside the pattern. -/
def accepts (p : Pattern) (directory : List String) : Bool := (p.overlap? directory).isSome

/-- The directory inside the module that a directory stands for. -/
def inside? (p : Pattern) (directory : List String) : Option (List String) :=
  (p.overlap? directory).map fun n => p.elements ++ directory.drop n

/-- The directory inside the module that a directory, which has to match, stands for. -/
def inside (p : Pattern) (directory : List String) : Except ModuleFault (List String) :=
  match p.inside? directory with
  | some inner => .ok inner
  | none => .error (.patternMismatch p.text (String.intercalate "/" directory))

end Pattern

end Protogen.Import
