import Protogen.Code.Writer

/-!
# Programs of writer steps

A `Step` is one call of a writer; blocks, conditions, methods and appended writers hold the steps
of their bodies. Running a program records what happened: a step that is refused leaves the
writer as it was and the next one goes on; a raised text ends the run and closes the scopes of
the enclosing blocks on its way out.

* `Step.run` and `runAll` run one step and a list of steps.
* `Event` is an entry of the record.
-/

set_option autoImplicit false

namespace Protogen.Code

/-- One step of a program. -/
inductive Step
  | line (text : String)
  | blank
  | enterBlock (header kind : String)
  | enterIf (condition : String)
  | enterElse
  | enterMethod (name argument : String)
  | exitBlock (suffix : String)
  | exitMethod
  | text
  | raise (text : String)
  | block (header suffix : String) (body : List Step)
  | ifBlock (condition : String) (body : List Step)
  | method (name argument : String) (body : List Step)
  | append (indent : String) (body : List Step)

/-- What happened to a step, with the depth and the number of lines at that time. -/
inductive Event
  | done (step : Step) (depth lines : Nat)
  | rendered (text : String)
  | refused (step : Step) (depth lines : Nat) (fault : ScopeFault)
  /-- a raised text passed through the step -/
  | broken (step : Step) (depth lines : Nat)

/-- The outcome of a run: the writer, the record, and the text that ended it, if one did. -/
structure Outcome where
  writer : Writer
  record : List Event
  raised : Option String

namespace Outcome

/-- A step that went well. -/
def done (step : Step) (w : Writer) : Outcome := ⟨w, [.done step w.depth w.lines.length], none⟩

/-- A step that was refused. -/
def refused (step : Step) (w : Writer) (fault : ScopeFault) : Outcome :=
  ⟨w, [.refused step w.depth w.lines.length fault], none⟩

/-- A step that goes well if it is not refused. -/
def attempt (step : Step) (w : Writer) : Except ScopeFault Writer → Outcome
  | .ok next => done step next
  | .error fault => refused step w fault

/-- The entry that ends the record of a step with a body. -/
def closing (step : Step) (w : Writer) : Option String → Event
  | none => .done step w.depth w.lines.length
  | some _ => .broken step w.depth w.lines.length

end Outcome

/-- Runs a body, given as a function, inside a scope. -/
def runWithin (step : Step) (enter : Writer → Writer) (suffix : String)
    (body : Writer → Outcome) (w : Writer) : Outcome :=
  let inner := enter w
  let outcome := body inner
  let after := outcome.writer.closeTo w.depth suffix
  ⟨after, .done step inner.depth inner.lines.length :: outcome.record ++
    [Outcome.closing step after outcome.raised], outcome.raised⟩

mutual

/-- Runs one step. -/
def Step.run : Step → Writer → Outcome
  | .line text, w => .done (.line text) (w.line text)
  | .blank, w => .done .blank w.blank
  | .enterBlock header kind, w => .done (.enterBlock header kind) (w.enterBlock header kind)
  | .enterIf condition, w => .done (.enterIf condition) (w.enterIf condition)
  | .enterElse, w => .attempt .enterElse w w.enterElse
  | .enterMethod name argument, w =>
    .done (.enterMethod name argument) (w.enterMethod name argument)
  | .exitBlock suffix, w => .attempt (.exitBlock suffix) w (w.exitBlock suffix)
  | .exitMethod, w => .attempt .exitMethod w w.exitMethod
  | .text, w =>
    match w.text with
    | .ok text => ⟨w, [.rendered text], none⟩
    | .error fault => .refused .text w fault
  | .raise text, w => ⟨w, [.broken (.raise text) w.depth w.lines.length], some text⟩
  | .block header suffix body, w =>
    runWithin (.block header suffix body) (·.enterBlock header "block") suffix (runAll body) w
  | .ifBlock condition body, w =>
    runWithin (.ifBlock condition body) (·.enterIf condition) "" (runAll body) w
  | .method name argument body, w =>
    runWithin (.method name argument body) (·.enterMethod name argument) ";" (runAll body) w
  | .append indent body, w =>
    let inner := runAll body { indent := indent }
    match inner.raised with
    | some text =>
      ⟨w, [.broken (.append indent body) w.depth w.lines.length], some text⟩
    | none => .attempt (.append indent body) w (w.append inner.writer)

/-- Runs the steps of a list until one raises a text. -/
def runAll : List Step → Writer → Outcome
  | [], w => ⟨w, [], none⟩
  | step :: steps, w =>
    let first := step.run w
    match first.raised with
    | some text => ⟨first.writer, first.record, some text⟩
    | none =>
      let rest := runAll steps first.writer
      ⟨rest.writer, first.record ++ rest.record, rest.raised⟩

end

end Protogen.Code
