import Protogen.Import.Pattern

/-!
# External modules

A module provides directories of sources. Modules are tried in the order of their list, the
patterns of a module in the order in which it gives them.

* `Module.provides` and `Module.fileIn` tell whether and where a module has a file.
* `firstProviding` is the module that an import is resolved to.
* `predefined` lists the modules that are always known.
-/

set_option autoImplicit false

namespace Protogen.Import

/-- A named module and the directories it provides. -/
structure Module where
  name : String
  patterns : List Pattern := []
  deriving DecidableEq, Repr

namespace Module

/-- A module with patterns given as texts. -/
def read (name : String) (patterns : List String) : Except ModuleFault Module := do
  pure ⟨name, ← patterns.mapM Pattern.read⟩

/-- The first pattern that a reference matches. -/
def patternFor? (m : Module) (reference : String) : Option Pattern :=
  m.patterns.find? (·.accepts (Reference.split reference).directory)

/-- Whether a module provides a reference. -/
def provides (m : Module) (reference : String) : Bool := (m.patternFor? reference).isSome

/-- The reference to the same file from inside the module. -/
def fileIn? (m : Module) (reference : String) : Option String := do
  let pattern ← m.patternFor? reference
  let parts := Reference.split reference
  let inner ← pattern.inside? parts.directory
  pure (String.intercalate "/" (m.name :: (inner ++ [parts.file])))

/-- The reference to the same file from inside a module that has to provide it. -/
def fileIn (m : Module) (reference : String) : Except ModuleFault String :=
  match m.patternFor? reference with
  | none => .error (.notProvided m.name reference)
  | some pattern => do
    let parts := Reference.split reference
    let inner ← pattern.inside parts.directory
    pure (String.intercalate "/" (m.name :: (inner ++ [parts.file])))

end Module

/-- The first module that provides a reference. -/
def firstProviding (modules : List Module) (reference : String) : Option Module :=
  modules.find? (·.provides reference)

/-- A directory with its subdirectories. -/
def withNested (elements : List String) : Pattern := ⟨elements, true⟩

/-- The module of the runtime parsers and the standard types. -/
def spineWeb : Module :=
  ⟨"spine-web", ⟨["client", "parser"], false⟩ :: withNested ["proto", "google", "protobuf"] ::
    ["base", "change", "client", "core", "net", "people", "time", "ui", "validate", "web"].map
      fun name => withNested ["proto", "spine", name]⟩

/-- The module of the user types. -/
def spineUsers : Module := ⟨"spine-users", [withNested ["spine", "users"]]⟩

/-- The modules that are always known. -/
def predefined : List Module := [spineWeb, spineUsers]

end Protogen.Import
