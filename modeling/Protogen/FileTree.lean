import Protogen.Path
import Protogen.Failure
import Protogen.Text.Lines

/-!
# File trees

A `FileTree` maps locations, the lists of names from the root, to files and directories; the
root is always a directory. A path is followed name by name, and every name but the last has to
lead to a directory. Names and whole paths have a limit of length. There are no links in a tree: a
file or directory is at one location only, and what is written there changes at no other one.

* `find?`, `put` and `remove` look at and change single locations.
* `locate` follows a path, `isPresent` and `isDirectory` tell what is at its end.
* `readText` reads a file with every line end as a line feed; `writeText` and `appendText` store
  texts as they are.
* `makeDirectories` creates a directory and those above it.
* `files` lists the files under a location.
-/

set_option autoImplicit false

namespace Protogen

/-- The names from the root to a file or directory. -/
abbrev Location := List String

/-- What is at a location: a file or a directory, and never a link to another location. -/
inductive Node
  | file (content : String)
  | directory
  deriving DecidableEq, Repr

/-- Files and directories, and the directory that relative paths start from. -/
structure FileTree where
  workingDirectory : Location := []
  nodes : List (Location × Node) := []

namespace FileTree

/-- What is at a location. -/
def find? (t : FileTree) (location : Location) : Option Node :=
  if location = [] then some .directory else t.nodes.lookup location

/-- The nodes with one set, in its place if there is one and last otherwise. -/
def setNode (location : Location) (node : Node) : List (Location × Node) → List (Location × Node)
  | [] => [(location, node)]
  | n :: nodes => if n.1 = location then (location, node) :: nodes
    else n :: setNode location node nodes

/-- The tree with a node at a location. -/
def put (t : FileTree) (location : Location) (node : Node) : FileTree :=
  { t with nodes := setNode location node t.nodes }

/-- The tree with nothing at a location. -/
def remove (t : FileTree) (location : Location) : FileTree :=
  { t with nodes := t.nodes.filter fun n => n.1 != location }

/-- The location that a path starts from. -/
def origin (t : FileTree) (p : Path) : Location := if p.isAbsolute then [] else t.workingDirectory

/-- The location one name further. -/
def follow (location : Location) (name : String) : Location :=
  if name = ".." then location.dropLast else location ++ [name]

/-- Names of more bytes lead nowhere. -/
def nameLimit : Nat := 255

/-- Paths of more bytes lead nowhere. -/
def pathLimit : Nat := 4095

/-- Follows names from a location, each from a directory. -/
def walk (t : FileTree) : Location → List String → Except FileFault Location
  | location, [] => .ok location
  | location, name :: names =>
    match t.find? location with
    | none => .error .notFound
    | some (.file _) => .error .notDirectory
    | some .directory =>
      if nameLimit < name.utf8ByteSize then .error .nameTooLong
      else t.walk (follow location name) names

/-- The location at the end of a path; nothing needs to be there. -/
def locate (t : FileTree) (p : Path) : Except FileFault Location :=
  if pathLimit < p.text.utf8ByteSize then .error .nameTooLong else t.walk (t.origin p) p.parts

/-- Why nobody can tell whether there is anything at the end of a path: a part of it that is
missing or no directory is no reason, for then there is nothing. -/
def lookFault? (t : FileTree) (p : Path) : Option FileFault :=
  match t.locate p with
  | .error .nameTooLong => some .nameTooLong
  | _ => none

/-- What is at the end of a path. -/
def nodeAt? (t : FileTree) (p : Path) : Option Node :=
  match t.locate p with
  | .ok location => t.find? location
  | .error _ => none

/-- Whether there is anything at the end of a path. -/
def isPresent (t : FileTree) (p : Path) : Bool := (t.nodeAt? p).isSome

/-- Whether there is a directory at the end of a path. -/
def isDirectory (t : FileTree) (p : Path) : Bool := t.nodeAt? p == some .directory

/-- The stored text of a file. -/
def stored (t : FileTree) (p : Path) : Except FileFault String := do
  match t.find? (← t.locate p) with
  | none => throw .notFound
  | some .directory => throw .isDirectory
  | some (.file content) => pure content

/-- The text of a file, with every line end as a line feed. -/
def readText (t : FileTree) (p : Path) : Except FileFault String :=
  (t.stored p).map fun content => String.ofList (Text.foldEndings content.toList)

/-- Stores a text at the end of a path, made from the text stored there or from the empty one. -/
def modifyText (t : FileTree) (p : Path) (f : String → String) : Except FileFault FileTree := do
  let location ← t.locate p
  match t.find? location with
  | none => pure (t.put location (.file (f "")))
  | some .directory => throw .isDirectory
  | some (.file content) => pure (t.put location (.file (f content)))

/-- Stores a text in place of what is there. -/
def writeText (t : FileTree) (p : Path) (content : String) : Except FileFault FileTree :=
  t.modifyText p fun _ => content

/-- Stores a text behind what is there. -/
def appendText (t : FileTree) (p : Path) (content : String) : Except FileFault FileTree :=
  t.modifyText p fun old => old ++ content

/-- Removes a file. -/
def eraseFile (t : FileTree) (p : Path) : Except FileFault FileTree := do
  let location ← t.locate p
  match t.find? location with
  | none => throw .notFound
  | some .directory => throw .isDirectory
  | some (.file _) => pure (t.remove location)

/-- Creates a single directory. -/
def makeDirectory (t : FileTree) (p : Path) : Except FileFault FileTree := do
  let location ← t.locate p
  match t.find? location with
  | none => pure (t.put location .directory)
  | some _ => throw .alreadyExists

/-- A directory is enough where it was to be created. -/
def orPresent (t : FileTree) (p : Path) (fault : FileFault) : Except FileFault Unit × FileTree :=
  (if t.isDirectory p then .ok () else .error fault, t)

/-- Creates the directory at the end of names, given last first, and those above it. -/
def makeAll (anchor : Anchor) : List String → FileTree → Except FileFault Unit × FileTree
  | [], t => t.orPresent ⟨anchor, []⟩ .notFound
  | name :: above, t =>
    let p : Path := ⟨anchor, (name :: above).reverse⟩
    match t.makeDirectory p with
    | .ok t => (.ok (), t)
    | .error .notFound =>
      match makeAll anchor above t with
      | (.error fault, t) => (.error fault, t)
      | (.ok _, t) =>
        match t.makeDirectory p with
        | .ok t => (.ok (), t)
        | .error fault => t.orPresent p fault
    | .error fault => t.orPresent p fault

/-- Creates a directory and those above it; one that is there already is left. -/
def makeDirectories (t : FileTree) (p : Path) : Except FileFault Unit × FileTree :=
  makeAll p.anchor p.parts.reverse t

/-- The files under a location, with the names that lead to them from there. -/
def files (t : FileTree) (location : Location) : List (List String × String) :=
  t.nodes.filterMap fun n =>
    match n.2 with
    | .file content =>
      if location.isPrefixOf n.1 then some (n.1.drop location.length, content) else none
    | .directory => none

end FileTree

end Protogen
