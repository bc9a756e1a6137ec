import Protogen.Command.Option
import Protogen.Command.Listing
import Protogen.Schema.Decode
import Protogen.Import.Config
import Protogen.Generation
import Protogen.Text.Plain

/-!
# Commands

* `gen` generates everything for a schema, `resolve` resolves the imports of files, `info` lists
  the known types.
* `configuredModules` merges the modules of a configuration file and of the options.
* `execute` runs a command line on a file tree; its `Outcome` tells the exit code, the texts on
  both streams, and the failure that no command reports, if there was one.
-/

set_option autoImplicit false

namespace Protogen.Command

/-- Why a command ended. -/
inductive Abort
  | complaint (complaint : Complaint)
  /-- a failure that no command reports -/
  | escaped (failure : Failure)
  deriving DecidableEq, Repr

/-- The workspace of a command and what it printed so far. -/
structure Console where
  workspace : Workspace
  printed : String := ""

/-- A computation of a command. -/
abbrev Action := ExceptT Abort (StateM Console)

/-- What a command line leaves behind. -/
structure Outcome where
  exitCode : Nat
  stdout : String
  stderr : String
  escaped : Option Failure := none
  isVerbose : Bool := false

namespace Action

/-- Ends a command with a complaint. -/
def complain {α : Type} (complaint : Complaint) : Action α := throw (.complaint complaint)

/-- A value, unless its computation failed. -/
def demand {α : Type} (onFailure : Failure → Abort) (result : Except Failure α) : Action α :=
  ExceptT.mk fun console => (result.mapError onFailure, console)

/-- Prints a text. -/
def print (text : String) : Action Unit :=
  modify fun console => { console with printed := console.printed ++ text }

/-- Prints a message, without what it may tell a terminal. -/
def say (message : String) : Action Unit := print (Text.plain message)

/-- Runs a session on the workspace. -/
def session {α : Type} (onFailure : Failure → Abort) (s : Session α) : Action α :=
  ExceptT.mk fun console =>
    let (result, workspace) := s.run console.workspace
    (result.mapError onFailure, { console with workspace := workspace })

end Action

/-- An error that is reported with its wording. -/
def report (failure : Failure) : Abort := .complaint (.reported failure.message)

/-- Whether a failure of reading a schema is reported. -/
def isBadSchema : Failure → Bool
  | .document .notObject => false
  | .document .infiniteNumber => false
  | .document _ => true
  | .json (.tooDeep _) => false
  | .json _ => true
  | _ => false

/-- A failure of reading a schema. -/
def badSchema (file : String) (failure : Failure) : Abort :=
  if isBadSchema failure then
    .complaint (.reported ("Cannot read schema " ++ file ++ ": " ++ failure.message))
  else .escaped failure

/-- A failure of reading a configuration of modules. -/
def badConfig (failure : Failure) : Abort :=
  match failure with
  | .json (.tooDeep _) => .escaped failure
  | _ => report failure

/-- A failure of a generation: inconsistent schemas and malformed imports are reported. -/
def badGeneration (failure : Failure) : Abort :=
  match failure with
  | .inconsistent _ => report failure
  | .unregistered _ => report failure
  | .malformedImport _ => report failure
  | _ => .escaped failure

/-- A failure of resolving the imports of a file: malformed imports are reported. -/
def badImport (file : String) (failure : Failure) : Abort :=
  match failure with
  | .malformedImport _ => .complaint (.reported (file ++ ": " ++ failure.message))
  | _ => .escaped failure

/-- What is at the end of a path as it is written: a slash or a dot at its end needs a
directory. -/
def nodeAtText? (files : FileTree) (text : String) : Option Node :=
  if text.isEmpty || FileTree.pathLimit < text.utf8ByteSize then none
  else match files.nodeAt? (Path.read text) with
    | some (.file content) =>
      if Path.isPart ((Text.split '/' text).getLastD "") then some (.file content) else none
    | node => node

/-- Checks that there is a file at the end of a path. -/
def checkFile (verb : Verb) (hint text : String) : Action Unit := do
  let invalid (reason : String) : Action Unit := Action.complain (.usage (some verb)
    ("Invalid value for " ++ hint ++ ": File " ++ Text.quote text ++ " " ++ reason))
  match nodeAtText? (← get).workspace.files text with
  | none => invalid "does not exist."
  | some .directory => invalid "is a directory."
  | some (.file _) => pure ()

/-- Whether a command needs an option. -/
def isRequired : Verb → Opt → Bool
  | .gen, .input => true
  | .gen, .output => true
  | .info, .input => true
  | .resolve, .generatedRoot => true
  | _, _ => false

/-- Checks the value of a given option. -/
def checkGiven (verb : Verb) (a : Arguments) (o : Opt) : Action Unit :=
  match o, a.value? o with
  | .input, some file => checkFile verb o.hint file
  | .modulesConfig, some file => checkFile verb o.hint file
  | _, _ => pure ()

/-- Checks that an option that is not given is not needed. -/
def checkMissing (verb : Verb) (o : Opt) : Action Unit :=
  if isRequired verb o then
    Action.complain (.usage (some verb) ("Missing option " ++ o.hint ++ "."))
  else pure ()

/-- Checks the arguments that are no options: files of `resolve`. -/
def checkFiles (verb : Verb) (a : Arguments) : Action Unit :=
  if verb = .resolve then
    if a.rest.isEmpty then
      Action.complain (.usage (some verb) "Missing argument 'FILES...'.")
    else a.rest.forM (checkFile verb "'FILES...'")
  else pure ()

/-- Checks that commands without files have no arguments left. -/
def checkExtra (verb : Verb) (a : Arguments) : Action Unit :=
  if verb = .resolve || a.rest.isEmpty then pure ()
  else Action.complain (.usage (some verb) ("Got unexpected extra argument" ++
    (if a.rest.length = 1 then "" else "s") ++ " (" ++ String.intercalate " " a.rest ++ ")"))

/-- Checks the arguments of a command: given options in their order, then files, then missing
options, then what is left. -/
def check (verb : Verb) (a : Arguments) : Action Unit := do
  let (given, missing) := a.checkOrder verb.options
  if given.contains .help then Action.complain (.help (some verb))
  given.forM (checkGiven verb a)
  checkFiles verb a
  missing.forM (checkMissing verb)
  checkExtra verb a

/-- A module given as `NAME=PATTERN[,PATTERN...]`; blank patterns do not count. -/
def readModule (spec : String) : Except String (String × List String) :=
  let chars := spec.toList
  let name := Text.trim (chars.takeWhile (· != '='))
  match chars.dropWhile (· != '=') with
  | [] => .error ("expected NAME=PATTERN[,PATTERN...], got " ++ Text.quote spec)
  | _ :: patterns =>
    if name.isEmpty then .error ("expected NAME=PATTERN[,PATTERN...], got " ++ Text.quote spec)
    else .ok (String.ofList name,
      (Text.split ',' (String.ofList patterns)).filter fun p => !(Text.trim p.toList).isEmpty)

/-- A configuration with the patterns of a module added, behind those it has. -/
def addModule (config : Import.Config) (m : String × List String) : Import.Config :=
  match config with
  | [] => [m]
  | entry :: rest =>
    if entry.1 = m.1 then (entry.1, entry.2 ++ m.2) :: rest else entry :: addModule rest m

/-- The configuration in a file, if one is given. -/
def readConfigFile (file : Option String) : Action Import.Config :=
  match file with
  | none => pure []
  | some file => do
    let config ← Action.session .escaped (Import.loadConfig file)
    Action.demand badConfig config

/-- The modules of a configuration file and of the options, and the predefined ones. -/
def configuredModules (verb : Verb) (a : Arguments) : Action (List Import.Module) := do
  let specs ← (a.values .module).mapM fun spec =>
    match readModule spec with
    | .ok m => pure m
    | .error message => Action.complain (.usage (some verb) ("Invalid value: " ++ message))
  let config ← readConfigFile (a.value? .modulesConfig)
  Action.demand report (failing .modules (Import.combined (specs.foldl addModule config)))

/-- Reads a schema file. -/
def readSchema (file : String) : Action Schema.FileSet := do
  let text ← Action.session .escaped (Session.readText (Path.read file))
  Action.demand (badSchema file) (Schema.FileSet.read text)

/-- Generates everything for a schema. -/
def gen (a : Arguments) : Action Unit := do
  let schema ← readSchema ((a.value? .input).getD "")
  let modules ← configuredModules .gen a
  let generatedRoot := ((a.value? .generatedRoot).filter (!·.isEmpty)).map Path.read
  let generation : Generation :=
    ⟨Path.read ((a.value? .output).getD ""), modules, generatedRoot,
      (a.value? .runtimeImport).getD defaultRuntimeImport⟩
  Action.session badGeneration (generation.run schema)

/-- Resolves the imports of files. -/
def resolve (a : Arguments) : Action Unit := do
  let modules ← configuredModules .resolve a
  let root := Path.read ((a.value? .generatedRoot).getD "")
  a.rest.forM fun file => do
    let changed ← Action.session (badImport file)
      (Import.resolveFile root modules (Path.read file))
    Action.say ((if changed then "Resolved: " else "Unchanged: ") ++ file ++ "\n")

/-- Lists the known types. -/
def info (a : Arguments) : Action Unit := do
  let schema ← readSchema ((a.value? .input).getD "")
  let registry ← Action.demand .escaped (failing .nullPart (Registry.ofFileSet schema))
  if (a.values .json).isEmpty then do
    Action.print Registry.listingTitle
    Action.print (← Action.demand .escaped (failing .markup registry.listing))
  else Action.print registry.listingJson

/-- Checks the arguments of a command and runs it. -/
def perform (verb : Verb) (a : Arguments) : Action Unit := do
  check verb a
  match verb with
  | .gen => gen a
  | .resolve => resolve a
  | .info => info a

/-- The complaint about a word that is no command; options may still follow it. -/
def notACommand (word : String) (rest : List String) : Complaint :=
  match scan none groupOptions false (word :: rest) with
  | .error complaint => complaint
  | .ok again =>
    if (again.values .help).isEmpty then
      .usage none (noSuch "command" (Verb.all.map Verb.word) word)
    else .help none

/-- The command and its own arguments, behind the options that stand before it. -/
def readCommand (a : Arguments) : Except Complaint (Verb × Arguments) :=
  if (a.values .help).isEmpty then
    match a.rest with
    | [] => .error (.usage none "Missing command.")
    | word :: rest =>
      match Verb.ofWord? word with
      | some verb => (scan (some verb) verb.options true rest).map fun own => (verb, own)
      | none => .error (notACommand word rest)
  else .error (.help none)

/-- The first line of the usage. -/
def usageLine : Option Verb → String
  | none => "Usage: cli [OPTIONS] COMMAND [ARGS]...\n"
  | some .resolve => "Usage: cli resolve [OPTIONS] FILES...\n"
  | some verb => "Usage: cli " ++ verb.word ++ " [OPTIONS]\n"

/-- The line that points to the usage. -/
def helpLine (verb : Option Verb) : String :=
  "Try 'cli " ++ verb.elim "" (fun verb => verb.word ++ " ") ++ "--help' for help.\n"

/-- Exit code and texts of a complaint, on the first and on the second stream. -/
def Complaint.outcome : Complaint → Nat × String × String
  | .usage verb message =>
    (2, "", usageLine verb ++ helpLine verb ++ "\nError: " ++ message ++ "\n")
  | .badOption message => (2, "", "Error: " ++ message ++ "\n")
  | .reported message => (1, "", "Error: " ++ message ++ "\n")
  | .help verb => (0, usageLine verb, "")

/-- The outcome of an action. -/
def outcomeOf (isVerbose : Bool) (result : Except Abort Unit) (printed : String) : Outcome :=
  match result with
  | .ok _ => ⟨0, printed, "", none, isVerbose⟩
  | .error (.complaint complaint) =>
    let (code, out, err) := complaint.outcome
    ⟨code, printed ++ Text.plain out, Text.plain err, none, isVerbose⟩
  | .error (.escaped failure) => ⟨1, printed, "", some failure, isVerbose⟩

/-- Runs a command line. -/
def execute (arguments : List String) (files : FileTree) : Outcome × Workspace :=
  let start : Console := ⟨⟨files, []⟩, ""⟩
  match scan none groupOptions false arguments with
  | .error complaint =>
    (outcomeOf false (.error (.complaint complaint)) "", start.workspace)
  | .ok a =>
    let action := match readCommand a with
      | .ok (verb, own) => perform verb own
      | .error complaint =>
        Action.complain (if arguments.isEmpty then .help none else complaint)
    let (result, console) := action.run start
    (outcomeOf (!(a.values .verbose).isEmpty) result console.printed, console.workspace)

end Protogen.Command
