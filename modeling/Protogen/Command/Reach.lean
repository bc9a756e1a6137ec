import Protogen.Command.Run

/-!
# The reach of a command line

A command line depends on a small part of a file tree. `reach` lists the paths it looks at on a
given tree and `visited` the locations that a path goes through, so that a tree can be filled
step by step: once every location visited is known, more of the tree changes nothing.

* `argumentPaths`: the arguments of the command, as paths.
* `compiledPaths`: the compiled files of the schema that is generated for.
* `recordedPaths`: the files that the records tell of.
-/

set_option autoImplicit false

namespace Protogen

/-- The locations that a path goes through, its end included. -/
def FileTree.visited (t : FileTree) (p : Path) : List Location :=
  (p.parts.foldl (fun seen name => FileTree.follow (seen.headD []) name :: seen)
    [t.origin p]).reverse

namespace Command

/-- The arguments of a command, as paths. -/
def argumentPaths (a : Arguments) : List Path :=
  (a.given.map (·.2) ++ a.rest).map Path.read

/-- The compiled files of the schema that is generated for. -/
def compiledPaths (a : Arguments) (files : FileTree) : List Path :=
  match (readSchema ((a.value? .input).getD "")).run ⟨⟨files, []⟩, ""⟩ with
  | (.ok schema, _) =>
    let generation : Generation := { jsRoot := Path.read ((a.value? .output).getD "") }
    generation.compiledFiles schema
  | (.error _, _) => []

/-- The files that the records of a run tell of. -/
def recordedPaths (arguments : List String) (files : FileTree) : List Path :=
  (execute arguments files).2.records.filterMap Record.file?

/-- The paths that a command line looks at on a file tree. -/
def reach (arguments : List String) (files : FileTree) : List Path :=
  match (scan none groupOptions false arguments).bind readCommand with
  | .error _ => []
  | .ok (_, a) => argumentPaths a ++ compiledPaths a files ++ recordedPaths arguments files

end Command

end Protogen
