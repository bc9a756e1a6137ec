import Protogen.Text.Closeness
import Protogen.Text.Quoted

/-!
# Options of the command line

* `Opt` names the options; each has a long form, some a short one, some take a value.
* `Verb` names the commands, `Verb.options` the options of each and `groupOptions` those that
  stand before the command.
* `scan` reads arguments: options and their values, in order, and what is left over.
* `Complaint` is a reason to end a command.
-/

set_option autoImplicit false

namespace Protogen.Command

/-- An option. -/
inductive Opt
  | input
  | output
  | generatedRoot
  | runtimeImport
  | modulesConfig
  | module
  | json
  | verbose
  | help
  deriving DecidableEq, Repr

/-- A command. -/
inductive Verb
  | gen
  | resolve
  | info
  deriving DecidableEq, Repr

namespace Opt

/-- The long form. -/
def long : Opt → String
  | input => "--input"
  | output => "--output"
  | generatedRoot => "--generated-root"
  | runtimeImport => "--runtime-import"
  | modulesConfig => "--modules-config"
  | module => "--module"
  | json => "--json"
  | verbose => "--verbose"
  | help => "--help"

/-- The letter of the short form. -/
def letter? : Opt → Option Char
  | input => some 'i'
  | output => some 'o'
  | module => some 'm'
  | verbose => some 'v'
  | _ => none

/-- Whether an option takes a value. -/
def takesValue : Opt → Bool
  | json => false
  | verbose => false
  | help => false
  | _ => true

/-- All forms of an option in messages. -/
def hint (o : Opt) : String :=
  match o.letter? with
  | some c => "'" ++ o.long ++ "' / '-" ++ String.singleton c ++ "'"
  | none => "'" ++ o.long ++ "'"

end Opt

namespace Verb

/-- The word for a command. -/
def word : Verb → String
  | gen => "gen"
  | resolve => "resolve"
  | info => "info"

/-- The options of a command, in the order in which missing ones are reported. -/
def options : Verb → List Opt
  | gen => [.input, .output, .generatedRoot, .runtimeImport, .modulesConfig, .module, .help]
  | resolve => [.generatedRoot, .modulesConfig, .module, .help]
  | info => [.input, .json, .help]

/-- All commands. -/
def all : List Verb := [gen, resolve, info]

/-- The command of a word. -/
def ofWord? (word : String) : Option Verb := all.find? fun verb => verb.word == word

end Verb

/-- The options that stand before the command. -/
def groupOptions : List Opt := [.verbose, .help]

/-- A reason to end a command. -/
inductive Complaint
  /-- arguments that do not fit, of a command or of all of them -/
  | usage (verb : Option Verb) (message : String)
  /-- an option without its value, or with one it does not take -/
  | badOption (message : String)
  /-- an error to report -/
  | reported (message : String)
  /-- the usage is asked for -/
  | help (verb : Option Verb)
  deriving DecidableEq, Repr

/-- What arguments hold: options with their values, and the rest. -/
structure Arguments where
  given : List (Opt × String) := []
  rest : List String := []
  deriving DecidableEq, Repr

/-- What one argument holds: options that are complete, and one that waits for its value, with
the form in which it was given. -/
structure OptionText where
  given : List (Opt × String) := []
  waiting : Option (Opt × String) := none

/-- The question for the words that may be meant. -/
def suggestion (words : List String) : String :=
  match words with
  | [] => ""
  | [word] => " Did you mean " ++ Text.quote word ++ "?"
  | words => " (Did you mean one of: " ++ String.intercalate ", " (words.map Text.quote) ++ "?)"

/-- The message for a word that is none of those known; at most three close ones are named. -/
def noSuch (what : String) (known : List String) (word : String) : String :=
  "No such " ++ what ++ " " ++ Text.quote word ++ "." ++
    suggestion (Text.closest 3 known word)

/-- Reads the letters of an argument behind its dash. -/
def readLetters (options : List Opt) : List Char → Except String OptionText
  | [] => .ok {}
  | c :: rest =>
    match options.find? fun o => o.letter? == some c with
    | none => .error (noSuch "option" [] ("-" ++ String.singleton c))
    | some o =>
      if o.takesValue then
        if rest.isEmpty then .ok { waiting := some (o, "-" ++ String.singleton c) }
        else .ok { given := [(o, String.ofList rest)] }
      else (readLetters options rest).map fun t => { t with given := (o, "") :: t.given }

/-- The long form of an argument and its value, if one follows an equals sign. -/
def longForm (argument : String) : String × Option String :=
  let chars := argument.toList
  let form := String.ofList (chars.takeWhile (· != '='))
  match chars.dropWhile (· != '=') with
  | [] => (form, none)
  | _ :: value => (form, some (String.ofList value))

/-- Reads an argument that begins with a dash. -/
def readOption (verb : Option Verb) (options : List Opt) (argument : String) :
    Except Complaint OptionText :=
  let (form, value) := longForm argument
  match options.find? fun o => o.long == form with
  | some o =>
    match o.takesValue, value with
    | true, some value => .ok { given := [(o, value)] }
    | true, none => .ok { waiting := some (o, form) }
    | false, none => .ok { given := [(o, "")] }
    | false, some _ =>
      .error (.badOption ("Option " ++ Text.quote form ++ " does not take a value."))
  | none =>
    match argument.toList with
    | '-' :: '-' :: _ => .error (.usage verb (noSuch "option" (options.map Opt.long) form))
    | chars => (readLetters options (chars.drop 1)).mapError (.usage verb)

/-- Whether an argument is read as options. -/
def isOption (argument : String) : Bool :=
  argument.toList.head? == some '-' && argument != "-"

/-- Reads arguments. If options may not stand behind other arguments, the first of these ends the
reading; two dashes always do. -/
def scan (verb : Option Verb) (options : List Opt) (interspersed : Bool) :
    List String → Except Complaint Arguments
  | [] => .ok {}
  | argument :: rest =>
    if argument = "--" then .ok { rest := rest }
    else if isOption argument then
      match readOption verb options argument with
      | .error complaint => .error complaint
      | .ok ⟨given, none⟩ =>
        (scan verb options interspersed rest).map fun a => { a with given := given ++ a.given }
      | .ok ⟨given, some (o, form)⟩ =>
        match rest with
        | [] => .error (.badOption ("Option " ++ Text.quote form ++ " requires an argument."))
        | value :: rest =>
          (scan verb options interspersed rest).map fun a =>
            { a with given := given ++ (o, value) :: a.given }
    else if interspersed then
      (scan verb options interspersed rest).map fun a => { a with rest := argument :: a.rest }
    else .ok { rest := argument :: rest }

namespace Arguments

/-- The values of an option, in order. -/
def values (a : Arguments) (o : Opt) : List String :=
  a.given.filterMap fun g => if g.1 = o then some g.2 else none

/-- The value of an option that is given at most once; the last one counts. -/
def value? (a : Arguments) (o : Opt) : Option String := (a.values o).getLast?

/-- The options in the order in which they are checked: given ones first. -/
def checkOrder (a : Arguments) (options : List Opt) : List Opt × List Opt :=
  let given := (a.given.map (·.1)).eraseDups
  (given, options.filter fun o => !given.contains o)

end Arguments

end Protogen.Command
