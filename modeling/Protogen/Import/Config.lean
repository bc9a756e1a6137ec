import Protogen.Import.Module
import Protogen.Json.Parser
import Protogen.Session

/-!
# Configurations of modules

* `combined` puts the configured modules before the predefined ones.
* `readConfig` reads a configuration from a JSON text, `loadConfig` from a file.
-/

set_option autoImplicit false

namespace Protogen.Import

/-- A configuration: names of modules and their patterns. -/
abbrev Config := List (String × List String)

/-- The configured modules and then the predefined ones. -/
def combined (config : Config) : Except ModuleFault (List Module) := do
  let user ← config.mapM fun entry => Module.read entry.1 entry.2
  pure (user ++ predefined)

/-- The configuration in a JSON value, read from the file at `path`: an object of lists, whose
elements count as texts. -/
def configOf (path : String) : Json → Except ModuleFault Config
  | .obj members => members.mapM fun m =>
    match m.2 with
    | .arr patterns => .ok (m.1, patterns.map Json.display)
    | _ => .error (.badConfig path)
  | _ => .error (.badConfig path)

/-- Reads a configuration from the text of the file at `path`. -/
def readConfig (path text : String) : Except Failure Config := do
  let value ← failing .json (Json.parse text)
  failing .modules (configOf path value)

/-- Reads a configuration from a file; its failures are those of the text, not of the file. -/
def loadConfig (path : String) : Session (Except Failure Config) := do
  let text ← Session.readText (Path.read path)
  pure (readConfig path text)

end Protogen.Import
