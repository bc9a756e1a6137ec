import Protogen.Command.Reach

/-!
# The program

Reads the part of the file system that the command line reaches, runs the command on it, writes
back what changed, and prints.

* `load` fills a file tree until the command line reaches nothing new.
* `store` writes the files and directories that a run created or changed.
-/

set_option autoImplicit false

namespace Protogen

/-- A location as an absolute path. -/
def Location.text (location : Location) : String := "/" ++ String.intercalate "/" location

/-- What the file system has at a location. -/
def nodeAt (location : Location) : IO (Option Node) := do
  let path := (← IO.currentDir) / location.text
  if ← path.isDir then pure (some .directory)
  else if ← path.pathExists then pure (some (.file (← IO.FS.readFile path)))
  else pure none

/-- A file tree with the node that the file system has at a location. -/
def loadLocation (files : FileTree) (location : Location) : IO FileTree := do
  pure (((← nodeAt location).map (files.put location)).getD files)

/-- Fills a file tree, of which some locations are known, until the command line reaches no other
location. -/
partial def load (arguments : List String) (known : List Location) (files : FileTree) :
    IO FileTree := do
  let locations := ((Command.reach arguments files).flatMap files.visited).eraseDups
  let unknown := locations.filter fun location => !known.contains location
  if unknown.isEmpty then pure files
  else load arguments (known ++ unknown) (← unknown.foldlM loadLocation files)

/-- Writes the nodes that are new or different. -/
def store (old new : FileTree) : IO Unit := do
  for (location, node) in new.nodes do
    if old.find? location != some node then
      let path := (← IO.currentDir) / location.text
      match node with
      | .directory => IO.FS.createDirAll path
      | .file content => IO.FS.writeFile path content

end Protogen

open Protogen in
/-- Runs a command line. -/
def main (arguments : List String) : IO UInt32 := do
  let here := (← IO.currentDir).components.filter (· != "")
  let files ← load arguments [] { workingDirectory := here }
  let (outcome, workspace) := Command.execute arguments files
  store files workspace.files
  if outcome.isVerbose then
    workspace.records.forM fun record => IO.eprintln record.message
  IO.print outcome.stdout
  IO.eprint outcome.stderr
  outcome.escaped.forM fun failure => IO.eprintln failure.message
  pure outcome.exitCode.toUInt32
