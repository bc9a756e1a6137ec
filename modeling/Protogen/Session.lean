import Protogen.FileTree
import Protogen.Record

/-!
# Sessions

A `Session` works on a file tree, keeps records of what it does and may fail; what was done
before a failure stays done.
-/

set_option autoImplicit false

namespace Protogen

/-- A file tree and the records so far. -/
structure Workspace where
  files : FileTree
  records : List Record := []

/-- A computation on a workspace that may fail. -/
abbrev Session := ExceptT Failure (StateM Workspace)

namespace Session

/-- A value computed without looking at the workspace. -/
def demand {α : Type} (result : Except Failure α) : Session α := ExceptT.mk fun w => (result, w)

/-- Keeps records. -/
def note (records : List Record) : Session Unit :=
  modify fun w => { w with records := w.records ++ records }

/-- Whether there is anything at the end of a path. -/
def isPresent (p : Path) : Session Bool := do
  let files := (← get).files
  match files.lookFault? p with
  | some fault => throw (.file fault)
  | none => pure (files.isPresent p)

/-- The text of a file. -/
def readText (p : Path) : Session String := do
  demand (failing .file ((← get).files.readText p))

/-- Changes the file tree, unless that is not possible. -/
def change (f : FileTree → Except FileFault FileTree) : Session Unit := do
  let files ← demand (failing .file (f (← get).files))
  modify fun w => { w with files := files }

/-- Stores a text in place of what is there. -/
def writeText (p : Path) (content : String) : Session Unit := change (·.writeText p content)

/-- Stores a text behind what is there. -/
def appendText (p : Path) (content : String) : Session Unit := change (·.appendText p content)

/-- Creates a directory and those above it. -/
def makeDirectories (p : Path) : Session Unit := do
  let (result, files) := (← get).files.makeDirectories p
  modify fun w => { w with files := files }
  demand (failing .file result)

end Session

end Protogen
