import Protogen.Code.Program
import Protogen.Proofs.Code.Headers

/-!
# What programs of writer steps write

* `Step.marks` and `marksAll` are the marks of the lines that a step or a list of steps writes on a
  writer: a step that is refused writes none, a block writes its header, what its body writes, and
  a closing line for each scope that is open beyond the ones before.
* `Step.writes` and `runAll_writes`: the writer behind them is the one before with these lines.
* `Visits` are the writers that there are while a program runs, each with the marks of all of its
  lines: after every step, in the bodies of blocks too, on the way out of them when a text is
  raised, and the new writers of appended programs.
* `visits_disciplined`: each of them keeps the discipline of scopes, and no step that is refused
  changes it.
-/

set_option autoImplicit false

namespace Protogen.Code

/-! ## Marks of steps -/

/-- The lines that close so many scopes; the last one carries the suffix. -/
def closings (suffix : String) : Nat → List Mark
  | 0 => []
  | n + 1 => List.replicate n (.closing "") ++ [.closing suffix]

/-- The lines of a step, unless it is refused. -/
def accepted (ms : List Mark) : Except ScopeFault Writer → List Mark
  | .ok _ => ms
  | .error _ => []

/-- The lines of a scope: its header, those of its body, and the closing lines of the scopes that
are open beyond the ones before. -/
def marksWithin (header kind suffix : String) (body : Writer → Outcome)
    (marks : Writer → List Mark) (w : Writer) : List Mark :=
  let inner := w.enterBlock header kind
  .header header kind :: marks inner ++ closings suffix ((body inner).writer.depth - w.depth)

mutual

/-- The lines that a step writes on a writer. -/
def Step.marks : Step → Writer → List Mark
  | .line text, _ => [.plain text]
  | .blank, _ => [.blank]
  | .enterBlock header kind, _ => [.header header kind]
  | .enterIf condition, _ => [.header ("if (" ++ condition ++ ")") "if"]
  | .enterElse, w => accepted [.otherwise] w.enterElse
  | .enterMethod name argument, _ => [.header (name ++ " = function(" ++ argument ++ ")") "method"]
  | .exitBlock suffix, w => accepted [.closing suffix] (w.exitBlock suffix)
  | .exitMethod, w => accepted [.closing ";"] w.exitMethod
  | .text, _ => []
  | .raise _, _ => []
  | .block header suffix body, w =>
    marksWithin header "block" suffix (runAll body) (marksAll body) w
  | .ifBlock condition body, w =>
    marksWithin ("if (" ++ condition ++ ")") "if" "" (runAll body) (marksAll body) w
  | .method name argument body, w =>
    marksWithin (name ++ " = function(" ++ argument ++ ")") "method" ";" (runAll body)
      (marksAll body) w
  | .append indent body, w =>
    let inner := runAll body { indent := indent }
    match inner.raised with
    | some _ => []
    | none =>
      accepted ((marksAll body { indent := indent }).map Mark.spliced) (w.append inner.writer)

/-- The lines that the steps of a list write, until one raises a text. -/
def marksAll : List Step → Writer → List Mark
  | [], _ => []
  | step :: steps, w =>
    let first := step.run w
    match first.raised with
    | some _ => step.marks w
    | none => step.marks w ++ marksAll steps first.writer

end

section

variable {step : Step} {steps : List Step} {w : Writer} {indent : String}

theorem Step.run_append_of_raised {text : String}
    (h : (runAll steps { indent := indent }).raised = some text) :
    (Step.append indent steps).run w =
      ⟨w, [.broken (.append indent steps) w.depth w.lines.length], some text⟩ := by
  simp [Step.run, h]

theorem Step.run_append_of_not_raised (h : (runAll steps { indent := indent }).raised = none) :
    (Step.append indent steps).run w =
      .attempt (.append indent steps) w (w.append (runAll steps { indent := indent }).writer) := by
  simp [Step.run, h]

theorem Step.marks_append_of_raised {text : String}
    (h : (runAll steps { indent := indent }).raised = some text) :
    (Step.append indent steps).marks w = [] := by
  simp [Step.marks, h]

theorem Step.marks_append_of_not_raised (h : (runAll steps { indent := indent }).raised = none) :
    (Step.append indent steps).marks w =
      accepted ((marksAll steps { indent := indent }).map Mark.spliced)
        (w.append (runAll steps { indent := indent }).writer) := by
  simp [Step.marks, h]

theorem runAll_of_raised {text : String} (h : (step.run w).raised = some text) :
    runAll (step :: steps) w = step.run w := by
  simp only [runAll, h]
  rw [← h]

theorem runAll_of_not_raised (h : (step.run w).raised = none) :
    runAll (step :: steps) w =
      ⟨(runAll steps (step.run w).writer).writer,
        (step.run w).record ++ (runAll steps (step.run w).writer).record,
        (runAll steps (step.run w).writer).raised⟩ := by
  simp [runAll, h]

theorem marksAll_of_raised {text : String} (h : (step.run w).raised = some text) :
    marksAll (step :: steps) w = step.marks w := by
  simp [marksAll, h]

theorem marksAll_of_not_raised (h : (step.run w).raised = none) :
    marksAll (step :: steps) w = step.marks w ++ marksAll steps (step.run w).writer := by
  simp [marksAll, h]

end

theorem closings_succ_succ (suffix : String) (n : Nat) :
    closings suffix (n + 2) = .closing "" :: closings suffix (n + 1) := rfl

theorem writes_closeMany {suffix : String} {n : Nat} {w : Writer} (h : n ≤ w.depth) :
    Writes w (closings suffix n) (w.closeMany suffix n) := by
  fun_induction Writer.closeMany suffix n w with
  | case1 w => exact .nil
  | case2 w =>
    have hne : w.scopes ≠ [] := List.length_pos_iff.1 h
    rw [Writer.close_eq_write]
    exact .single hne
  | case3 n w ih =>
    have hne : w.scopes ≠ [] := List.length_pos_iff.1 (Nat.lt_of_lt_of_le (Nat.succ_pos _) h)
    rw [closings_succ_succ]
    rw [Writer.close_eq_write] at ih ⊢
    refine .cons hne (ih ?_)
    show n + 1 ≤ w.scopes.tail.length
    rw [List.length_tail]
    exact Nat.le_sub_one_of_lt h

/-- The scopes that are closed when a scope is left. -/
theorem writes_closeTo (depth : Nat) (suffix : String) (w : Writer) :
    Writes w (closings suffix (w.depth - depth)) (w.closeTo depth suffix) :=
  writes_closeMany (Nat.sub_le ..)

theorem writes_within {step : Step} {header kind suffix : String} {body : Writer → Outcome}
    {marks : Writer → List Mark} (h : ∀ w, Writes w (marks w) (body w).writer) (w : Writer) :
    Writes w (marksWithin header kind suffix body marks w)
      (runWithin step (·.enterBlock header kind) suffix body w).writer := by
  have hbody := h (w.enterBlock header kind)
  rw [Writer.enterBlock_eq_write] at hbody
  exact .cons trivial (hbody.trans (writes_closeTo w.depth suffix _))

/-- A step that may be refused writes its lines or nothing. -/
theorem writes_attempt {step : Step} {w : Writer} {result : Except ScopeFault Writer}
    {ms : List Mark} (h : ∀ v, result = .ok v → Writes w ms v) :
    Writes w (accepted ms result) (Outcome.attempt step w result).writer := by
  cases result with
  | ok v => exact h v rfl
  | error fault => exact .nil

mutual

theorem Step.writes : ∀ (step : Step) (w : Writer), Writes w (step.marks w) (step.run w).writer
  | .line text, w => .single trivial
  | .blank, w => .single trivial
  | .enterBlock header kind, w => .single trivial
  | .enterIf condition, w => .single trivial
  | .enterElse, w => writes_attempt fun v hv => by
    obtain ⟨hfits, rfl⟩ := Writer.enterElse_eq_ok.1 hv
    exact .single hfits
  | .enterMethod name argument, w => .single trivial
  | .exitBlock suffix, w => writes_attempt fun v hv => by
    obtain ⟨hfits, rfl⟩ := Writer.exitBlock_eq_ok.1 hv
    exact .single hfits
  | .exitMethod, w => writes_attempt fun v hv => by
    obtain ⟨hmethod, rfl⟩ := Writer.exitMethod_eq_ok.1 hv
    refine .single ?_
    rintro hnil
    rw [hnil] at hmethod
    cases hmethod
  | .text, w => by
    rw [Step.run]
    split <;> exact .nil
  | .raise _, w => .nil
  | .block header suffix body, w => writes_within (runAll_writes body) w
  | .ifBlock condition body, w => writes_within (runAll_writes body) w
  | .method name argument body, w => writes_within (runAll_writes body) w
  | .append indent body, w => by
    cases hraised : (runAll body { indent := indent }).raised with
    | some text =>
      rw [Step.run_append_of_raised hraised, Step.marks_append_of_raised hraised]
      exact .nil
    | none =>
      rw [Step.run_append_of_not_raised hraised, Step.marks_append_of_not_raised hraised]
      refine writes_attempt fun v hv => ?_
      rw [Writer.append_eq_continuedBy hv]
      exact (runAll_writes body { indent := indent }).continued w

theorem runAll_writes : ∀ (steps : List Step) (w : Writer),
    Writes w (marksAll steps w) (runAll steps w).writer
  | [], w => .nil
  | step :: steps, w => by
    cases hraised : (step.run w).raised with
    | some text =>
      rw [runAll_of_raised hraised, marksAll_of_raised hraised]
      exact step.writes w
    | none =>
      rw [runAll_of_not_raised hraised, marksAll_of_not_raised hraised]
      exact (step.writes w).trans (runAll_writes steps _)

end

/-! ## Writers while a program runs -/

/-- While the steps run on a writer whose lines have the marks `past`, there is the writer `v`, and
its lines have the marks `ms`. -/
inductive Visits : List Step → List Mark → Writer → List Mark → Writer → Prop
  | here {steps : List Step} {past : List Mark} {w : Writer} : Visits steps past w past w
  /-- behind a step, also behind one that raises a text -/
  | after {step : Step} {steps : List Step} {past : List Mark} {w : Writer} :
    Visits (step :: steps) past w (past ++ step.marks w) (step.run w).writer
  | later {step : Step} {steps : List Step} {past ms : List Mark} {w v : Writer}
    (hraised : (step.run w).raised = none)
    (h : Visits steps (past ++ step.marks w) (step.run w).writer ms v) :
    Visits (step :: steps) past w ms v
  | block {header suffix : String} {body steps : List Step} {past ms : List Mark} {w v : Writer}
    (h : Visits body (past ++ [.header header "block"]) (w.enterBlock header "block") ms v) :
    Visits (.block header suffix body :: steps) past w ms v
  | ifBlock {condition : String} {body steps : List Step} {past ms : List Mark} {w v : Writer}
    (h : Visits body (past ++ [.header ("if (" ++ condition ++ ")") "if"]) (w.enterIf condition)
      ms v) :
    Visits (.ifBlock condition body :: steps) past w ms v
  | method {name argument : String} {body steps : List Step} {past ms : List Mark} {w v : Writer}
    (h : Visits body (past ++ [.header (name ++ " = function(" ++ argument ++ ")") "method"])
      (w.enterMethod name argument) ms v) :
    Visits (.method name argument body :: steps) past w ms v
  /-- the new writer of a program that is appended -/
  | append {indent : String} {body steps : List Step} {past ms : List Mark} {w v : Writer}
    (h : Visits body [] { indent := indent } ms v) :
    Visits (.append indent body :: steps) past w ms v

/-- The marks of a writer that there is while steps run are those of its lines, if that was so
before. -/
theorem Visits.writes {steps : List Step} {past ms : List Mark} {w v : Writer}
    (h : Visits steps past w ms v) (hpast : ∃ indent, Writes { indent := indent } past w) :
    ∃ indent, Writes { indent := indent } ms v := by
  induction h with
  | here => exact hpast
  | @after step _ _ w =>
    obtain ⟨indent, hw⟩ := hpast
    exact ⟨indent, hw.trans (step.writes w)⟩
  | @later step _ _ _ w _ _ _ ih =>
    obtain ⟨indent, hw⟩ := hpast
    exact ih ⟨indent, hw.trans (step.writes w)⟩
  | block _ ih | ifBlock _ ih | method _ ih =>
    obtain ⟨indent, hw⟩ := hpast
    exact ih ⟨indent, hw.concat trivial⟩
  | append _ ih => exact ih ⟨_, .nil⟩

theorem Outcome.writer_of_refused {step refused : Step} {w : Writer} {depth lines : Nat}
    {fault : ScopeFault} {result : Except ScopeFault Writer}
    (h : (Outcome.attempt step w result).record = [.refused refused depth lines fault]) :
    (Outcome.attempt step w result).writer = w := by
  cases result with
  | ok next => cases h
  | error fault => rfl

/-- A step whose record says that it was refused changed nothing. -/
theorem Step.writer_of_refused {step refused : Step} {w : Writer} {depth lines : Nat}
    {fault : ScopeFault} (h : (step.run w).record = [.refused refused depth lines fault]) :
    (step.run w).writer = w := by
  cases step with
  | line | blank | enterBlock | enterIf | enterMethod => cases h
  | enterElse | exitBlock | exitMethod => exact Outcome.writer_of_refused h
  | text =>
    rw [Step.run]
    split <;> rfl
  | raise => rfl
  | block | ifBlock | method => cases h
  | append indent body =>
    cases hraised : (runAll body { indent := indent }).raised with
    | some text => rw [Step.run_append_of_raised hraised]
    | none =>
      rw [Step.run_append_of_not_raised hraised] at h ⊢
      exact Outcome.writer_of_refused h

/-- Whatever steps run on a new writer, with whatever scopes they open, close or leave open, with
steps that are refused and texts that are raised: at every time the writer, and every new writer
that is going to be appended, keeps the discipline of scopes, and a step that is refused leaves it
as it is. -/
theorem visits_disciplined {steps : List Step} {indent : String} {ms : List Mark} {w : Writer}
    (h : Visits steps [] { indent := indent } ms w) :
    Disciplined ms w ∧
      ∀ (step refused : Step) (depth lines : Nat) (fault : ScopeFault),
        (step.run w).record = [.refused refused depth lines fault] → (step.run w).writer = w := by
  obtain ⟨indent, hw⟩ := h.writes ⟨indent, .nil⟩
  exact ⟨hw.disciplined, fun _ _ _ _ _ => Step.writer_of_refused⟩

/-- A method whose body closes it, tries to close it again, appends other code and goes on with a
condition, in whose alternative a text is raised. -/
def windingSteps : List Step :=
  [.block "a" "," [.method "f" "x"
    [.line "b", .enterIf "c", .exitBlock "", .exitMethod, .exitMethod,
      .append "    " [.enterBlock "d" "block", .line "", .exitBlock ";"],
      .enterIf "e", .enterElse, .raise "stop"]]]

/-- The winding steps keep the discipline: when the code to be appended is being written, and in the
end, when all scopes were left because of the raised text. No method is open before them, so leaving
one is refused. -/
theorem visits_disciplined_windingSteps :
    Disciplined [.header "d" "block"] (({ indent := "    " } : Writer).enterBlock "d" "block") ∧
      Disciplined (marksAll windingSteps {}) (runAll windingSteps {}).writer ∧
      (runAll windingSteps {}).raised = some "stop" ∧
      openHeaders (marksAll windingSteps {}) = [] ∧
      (runAll windingSteps {}).writer.rendered =
        ["a \x7b", "  f = function(x) \x7b", "    b", "    if (c) \x7b", "    \x7d", "  \x7d;",
          "  d \x7b", "", "  \x7d;", "  if (e) \x7b", "  \x7d else \x7b", "  \x7d;", "\x7d,"] ∧
      (Step.exitMethod.run {}).writer = {} := by
  have hstart : Visits windingSteps [] {} [] {} := .here
  refine ⟨?_, ?_, by decide, by decide, by decide,
    (visits_disciplined hstart).2 .exitMethod .exitMethod 0 0 .notInMethod rfl⟩
  · have happended : Visits windingSteps [] {} [.header "d" "block"]
        (({ indent := "    " } : Writer).enterBlock "d" "block") :=
      .block (.method (.later rfl (.later rfl (.later rfl (.later rfl (.later rfl
        (.append .after)))))))
    exact (visits_disciplined happended).1
  · have hend : Visits windingSteps [] {} (marksAll windingSteps {})
        (runAll windingSteps {}).writer := .after
    exact (visits_disciplined hend).1

end Protogen.Code
