/-!
# What can be wrong with markup

* `Fault` names the causes, `Fault.message` words them.
-/

set_option autoImplicit false

namespace Protogen.Markup

/-- Why a markup cannot be shown. -/
inductive Fault
  /-- a closing tag without an open one -/
  | nothingToClose
  /-- a tag with data that is not written as data is -/
  | malformedData
  /-- a colour with a component that is no number -/
  | unreadableColor
  deriving DecidableEq, Repr

/-- The wording of a fault. -/
def Fault.message : Fault → String
  | .nothingToClose => "a closing tag has nothing to close"
  | .malformedData => "the data of a tag cannot be read"
  | .unreadableColor => "a component of a colour is no number"

end Protogen.Markup
