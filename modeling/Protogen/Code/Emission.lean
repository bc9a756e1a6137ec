import Protogen.Code.Writer

/-!
# Emissions

An `Emission` writes code and may fail on its way; what was written before a failure stays
written, and the scopes opened by `block`, `ifBlock` and `method` are closed in either case.
-/

set_option autoImplicit false

namespace Protogen.Code

/-- A computation that writes code and may fail. -/
abbrev Emission := ExceptT Failure (StateM Writer)

namespace Emission

/-- Writes a line. -/
def line (text : String) : Emission Unit := modify (·.line text)

/-- Writes lines, one after the other. -/
def lines (texts : List String) : Emission Unit := texts.forM line

/-- Writes an empty line. -/
def blank : Emission Unit := modify Writer.blank

/-- Runs an emission inside a scope and closes what it leaves open. -/
def within (enter : Writer → Writer) (suffix : String) (body : Emission Unit) : Emission Unit :=
  ExceptT.mk fun w => Writer.within enter suffix body.run w

/-- Code inside a block. -/
def block (header suffix : String) (body : Emission Unit) : Emission Unit :=
  within (·.enterBlock header "block") suffix body

/-- Code under a condition. -/
def ifBlock (condition : String) (body : Emission Unit) : Emission Unit :=
  within (·.enterIf condition) "" body

/-- Code of a method. -/
def method (name argument : String) (body : Emission Unit) : Emission Unit :=
  within (·.enterMethod name argument) ";" body

/-- A step of a writer that needs scopes that fit. -/
def attempt (step : Writer → Except ScopeFault Writer) : Emission Unit := do
  match step (← get) with
  | .ok next => set next
  | .error fault => throw (.scope fault)

/-- Turns the innermost condition into its alternative. -/
def enterElse : Emission Unit := attempt Writer.enterElse

/-- Appends the lines of another writer. -/
def append (other : Writer) : Emission Unit := attempt (·.append other)

/-- A value computed without writing. -/
def demand {α : Type} (result : Except Failure α) : Emission α :=
  ExceptT.mk fun w => (result, w)

/-- What an emission writes on a new writer, if it does not fail. -/
def written (emission : Emission Unit) : Except Failure Writer :=
  match emission.run {} with
  | (.ok _, w) => .ok w
  | (.error failure, _) => .error failure

end Emission

end Protogen.Code
