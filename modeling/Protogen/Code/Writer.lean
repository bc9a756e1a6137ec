import Protogen.Failure

/-!
# Writing indented code

A `Writer` holds lines, each with the depth at which it was written, and the scopes that are
open, innermost first.

* `line`, `blank`, `enterBlock`, `enterIf`, `enterMethod` always work; `enterElse`, `exitBlock`,
  `exitMethod` and `append` need scopes that fit.
* `within` runs code inside a new scope and closes every scope that is open beyond the ones
  before, whatever the code did.
* `rendered` is the indented text of the lines; `text` is their join, for a writer without open
  scopes.
-/

set_option autoImplicit false

namespace Protogen.Code

/-- A line and its depth. -/
structure Line where
  depth : Nat
  text : String
  deriving DecidableEq, Repr

/-- Lines written so far and scopes that are open, innermost first. -/
structure Writer where
  indent : String := "  "
  lines : List Line := []
  scopes : List String := []
  deriving DecidableEq, Repr

namespace Writer

/-- The number of open scopes. -/
def depth (w : Writer) : Nat := w.scopes.length

/-- Writes a line at the present depth. -/
def line (text : String) (w : Writer) : Writer :=
  { w with lines := w.lines ++ [⟨w.depth, text⟩] }

/-- Writes an empty line. -/
def blank (w : Writer) : Writer := { w with lines := w.lines ++ [⟨0, ""⟩] }

/-- Opens a scope. -/
def push (kind : String) (w : Writer) : Writer := { w with scopes := kind :: w.scopes }

/-- Leaves the innermost scope. -/
def pop (w : Writer) : Writer := { w with scopes := w.scopes.tail }

/-- Writes a header and opens its scope. -/
def enterBlock (header kind : String) (w : Writer) : Writer :=
  (w.line (header ++ " \x7b")).push kind

/-- Opens the scope of a condition. -/
def enterIf (condition : String) (w : Writer) : Writer :=
  w.enterBlock ("if (" ++ condition ++ ")") "if"

/-- Opens the scope of a method. -/
def enterMethod (name argument : String) (w : Writer) : Writer :=
  w.enterBlock (name ++ " = function(" ++ argument ++ ")") "method"

/-- Turns the innermost scope, which has to be that of a condition, into its alternative. -/
def enterElse (w : Writer) : Except ScopeFault Writer :=
  if w.scopes.head? = some "if" then .ok ((w.pop.line "\x7d else \x7b").push "else")
  else .error .elseOutsideIf

/-- Writes the closing line of the innermost scope. -/
def close (suffix : String) (w : Writer) : Writer := w.pop.line ("\x7d" ++ suffix)

/-- Closes the innermost scope. -/
def exitBlock (suffix : String) (w : Writer) : Except ScopeFault Writer :=
  if w.scopes.isEmpty then .error .nothingToExit else .ok (w.close suffix)

/-- Closes the innermost scope, which has to be that of a method. -/
def exitMethod (w : Writer) : Except ScopeFault Writer :=
  if w.scopes.head? = some "method" then .ok (w.close ";") else .error .notInMethod

/-- Closes a number of scopes; the last closing line carries the suffix. -/
def closeMany (suffix : String) : Nat → Writer → Writer
  | 0, w => w
  | 1, w => w.close suffix
  | n + 2, w => closeMany suffix (n + 1) (w.close "")

/-- Closes scopes until at most `depth` are open. -/
def closeTo (depth : Nat) (suffix : String) (w : Writer) : Writer :=
  closeMany suffix (w.depth - depth) w

/-- Runs code inside a scope and closes what it leaves open. -/
def within {α : Type} (enter : Writer → Writer) (suffix : String) (body : Writer → α × Writer)
    (w : Writer) : α × Writer :=
  let result := body (enter w)
  (result.1, result.2.closeTo w.depth suffix)

/-- A line moved to a deeper place; empty lines stay at the margin. -/
def shift (depth : Nat) (l : Line) : Line :=
  if l.text.isEmpty then ⟨0, l.text⟩ else ⟨depth + l.depth, l.text⟩

/-- Appends the lines of a writer without open scopes at the present depth. -/
def append (w other : Writer) : Except ScopeFault Writer :=
  if other.scopes.isEmpty then .ok { w with lines := w.lines ++ other.lines.map (shift w.depth) }
  else .error .appendOpen

/-- A line with its indentation. -/
def indented (indent : String) (l : Line) : String :=
  if l.text.isEmpty then "" else String.join (List.replicate l.depth indent) ++ l.text

/-- The lines with their indentation. -/
def rendered (w : Writer) : List String := w.lines.map (indented w.indent)

/-- The lines as one text, whatever is open. -/
def draft (w : Writer) : String := String.intercalate "\n" w.rendered

/-- The lines as one text, for a writer without open scopes. -/
def text (w : Writer) : Except ScopeFault String :=
  if w.scopes.isEmpty then .ok w.draft else .error (.leftOpen w.scopes.reverse)

end Writer

end Protogen.Code
