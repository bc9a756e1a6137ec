import Protogen.Import.Resolver
import Protogen.Session

/-!
# Resolution of the imports of a file

* `resolveFile` resolves the imports of a file in place and tells whether one was changed; a file
  in which none changes is not written.
-/

set_option autoImplicit false

namespace Protogen.Import

/-- The resolver for a file tree. -/
def resolverFor (files : FileTree) (root : Path) (modules : List Module) : Resolver :=
  ⟨root, modules, files.isPresent, files.lookFault?, files.workingDirectory⟩

/-- Resolves the imports of a file; whether one was changed. -/
def resolveFile (root : Path) (modules : List Module) (file : Path) : Session Bool := do
  Session.note [.resolving file]
  let text ← Session.readText file
  let resolver := resolverFor (← get).files root modules
  Session.note (resolver.textTrail file.parent text)
  let resolved ← Session.demand (resolver.resolveText file.parent text)
  if resolved = text then pure false
  else do
    Session.writeText file resolved
    pure true

end Protogen.Import
