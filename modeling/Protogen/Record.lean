import Protogen.Path

/-!
# Records of what was done

A `Record` tells what was looked up, resolved or written; each has a level and a wording.
-/

set_option autoImplicit false

namespace Protogen

/-- How important a record is. -/
inductive Level
  | debug
  | info
  deriving DecidableEq, Repr

/-- What was done. -/
inductive Record
  /-- the imports of a file are resolved from here on -/
  | resolving (file : Path)
  | checked (file : Path) (found : Bool)
  | resolved (path replacement : String)
  | appended (file : Path)
  | wroteIndex (file : Path)
  deriving DecidableEq, Repr

namespace Record

/-- The level of a record. -/
def level : Record → Level
  | appended _ => .info
  | wroteIndex _ => .info
  | _ => .debug

/-- The file that a record is about. -/
def file? : Record → Option Path
  | resolving file => some file
  | checked file _ => some file
  | resolved _ _ => none
  | appended file => some file
  | wroteIndex file => some file

/-- The wording of a record. -/
def message : Record → String
  | resolving file => "Resolving imports in the file `" ++ file.text ++ "`."
  | checked file found => "Checking if the imported file `" ++ file.text ++
    "` exists, result: " ++ (if found then "True" else "False") ++ "."
  | resolved path replacement => "Resolved `" ++ path ++ "` as `" ++ replacement ++ "`."
  | appended file => "Appended generated code to `" ++ file.text ++ "`."
  | wroteIndex file => "Wrote the index file `" ++ file.text ++ "`."

end Record

end Protogen
