import Protogen.Text.Basic

/-!
# Paths

A path is where it starts and the names it goes through; `.` and empty names do not count, `..`
is a name like any other until a path is normalized.

* `Path.read` and `Path.text` read and write paths.
* `Path.join` follows one path from another; a path that starts at a root stands for itself.
* `Path.normalize` resolves every `..` that has a name before it.
* `Path.relative` is the way from one directory to another, both seen from a working directory.
-/

set_option autoImplicit false

namespace Protogen

/-- Where a path starts. -/
inductive Anchor
  /-- in the directory at hand -/
  | here
  | root
  /-- at the root written with two slashes -/
  | doubleRoot
  deriving DecidableEq, Repr

/-- The slashes of an anchor. -/
def Anchor.text : Anchor → String
  | .here => ""
  | .root => "/"
  | .doubleRoot => "//"

/-- A path. -/
structure Path where
  anchor : Anchor := .here
  parts : List String := []
  deriving DecidableEq, Repr

namespace Path

/-- Whether a name between slashes counts. -/
def isPart (name : String) : Bool := name != "" && name != "."

/-- The names of a text that count. -/
def partsOf (text : String) : List String := (Text.split '/' text).filter isPart

/-- Where a text starts. -/
def anchorOf (text : String) : Anchor :=
  match text.toList.takeWhile (· == '/') with
  | [] => .here
  | [_, _] => .doubleRoot
  | _ => .root

/-- Reads a path. -/
def read (text : String) : Path := ⟨anchorOf text, partsOf text⟩

/-- Writes a path; one without names that starts nowhere is a dot. -/
def text (p : Path) : String :=
  match p.anchor, p.parts with
  | .here, [] => "."
  | anchor, parts => anchor.text ++ String.intercalate "/" parts

/-- Whether a path starts at a root. -/
def isAbsolute (p : Path) : Bool := p.anchor != .here

/-- Follows `q` from `p`. -/
def join (p q : Path) : Path := if q.isAbsolute then q else ⟨p.anchor, p.parts ++ q.parts⟩

/-- The path without its last name. -/
def parent (p : Path) : Path := ⟨p.anchor, p.parts.dropLast⟩

/-- Goes through one more name; `stack` holds the names so far, last first. -/
def push (anchored : Bool) (stack : List String) (name : String) : List String :=
  if name = ".." then
    match stack with
    | [] => if anchored then [] else [".."]
    | top :: rest => if top = ".." then ".." :: stack else rest
  else name :: stack

/-- The path with every `..` resolved that has a name before it; behind a root none is left. -/
def normalize (p : Path) : Path :=
  ⟨p.anchor, (p.parts.foldl (push p.isAbsolute) []).reverse⟩

/-- The names from the root to a path seen from a working directory. -/
def absolute (workingDirectory : List String) (p : Path) : List String :=
  ((Path.mk .root workingDirectory).join p).normalize.parts

/-- What is left of two lists behind the names they have in common. -/
def divergence : List String → List String → List String × List String
  | a :: as, b :: bs => if a = b then divergence as bs else (a :: as, b :: bs)
  | as, bs => (as, bs)

/-- The names of the way from one directory to another. -/
def wayBetween (start target : List String) : List String :=
  let (up, down) := divergence start target
  List.replicate up.length ".." ++ down

/-- The way from one directory to another, both seen from a working directory. -/
def relative (workingDirectory : List String) (start target : Path) : Path :=
  ⟨.here, wayBetween (start.absolute workingDirectory) (target.absolute workingDirectory)⟩

end Path

end Protogen
