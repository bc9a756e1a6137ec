import Protogen.Field.Parsing
import Protogen.Proofs.Code.InPlace

/-!
# Code that closes its scopes again

A `Manager` opens a scope, runs a body in it and closes what is open beyond the scopes before: a
block, a condition, a method, or the guard of a value that may be null.

* `Outcome.StaysAbove` says that a run never goes down to a depth between two of its steps.
* `Rests below w`: the writer has the scopes `below` under others. `runAll_rests`: so it is behind
  steps that stay above these scopes, however they end.
* `closeTo_eq`: the lines that are written where scopes are closed.
* `Manager.restores_scopes`: what becomes of a writer behind a manager, whether its body returns or
  raises.
-/

set_option autoImplicit false

namespace Protogen.Code

/-! ## Runs above a depth -/

/-- Whether more scopes than a number are open at an entry of the record. -/
def Event.isAbove (level : Nat) : Event → Bool
  | .done _ depth _ => level < depth
  | .rendered _ => true
  | .refused _ depth _ _ => level < depth
  | .broken _ depth _ => level < depth

/-- Between two steps, also those of the bodies of inner blocks, more scopes than a number are
open. -/
def Outcome.StaysAbove (level : Nat) (outcome : Outcome) : Prop :=
  ∀ event ∈ outcome.record, event.isAbove level = true

namespace Outcome.StaysAbove

variable {level : Nat} {step : Step} {steps : List Step} {w : Writer}

theorem depth_of_ok {v : Writer} (h : (Outcome.attempt step w (.ok v)).StaysAbove level) :
    level < v.depth := by
  have hevent := h _ (List.mem_singleton_self _)
  simpa [Event.isAbove] using hevent

theorem first (h : (runAll (step :: steps) w).StaysAbove level) :
    (step.run w).StaysAbove level := by
  cases hraised : (step.run w).raised with
  | some text => rwa [runAll_of_raised hraised] at h
  | none =>
    rw [runAll_of_not_raised hraised] at h
    exact fun event hevent => h event (List.mem_append_left _ hevent)

theorem rest (h : (runAll (step :: steps) w).StaysAbove level)
    (hraised : (step.run w).raised = none) :
    (runAll steps (step.run w).writer).StaysAbove level := by
  rw [runAll_of_not_raised hraised] at h
  exact fun event hevent => h event (List.mem_append_right _ hevent)

section

variable {enter : Writer → Writer} {suffix : String} {body : Writer → Outcome}

theorem inside (h : (runWithin step enter suffix body w).StaysAbove level) :
    (body (enter w)).StaysAbove level :=
  fun event hevent => h event (List.mem_append_left _ (List.mem_cons_of_mem _ hevent))

theorem behind (h : (runWithin step enter suffix body w).StaysAbove level) :
    level < (runWithin step enter suffix body w).writer.depth := by
  have hlast := h _ (List.mem_append_right _ (List.mem_singleton_self _))
  cases hraised : (body (enter w)).raised <;>
    simpa [runWithin, hraised, closing, Event.isAbove] using hlast

end

end Outcome.StaysAbove

/-! ## Scopes below -/

/-- A writer has some scopes under at least one other. -/
structure Rests (below : List String) (w : Writer) : Prop where
  suffix : below <:+ w.scopes
  deeper : below.length < w.depth

namespace Rests

variable {below : List String} {w v : Writer}

/-- Closing scopes keeps those below, unless one of them would be closed. -/
theorem of_suffix (h : Rests below w) (hscopes : v.scopes <:+ w.scopes)
    (hdepth : below.length < v.depth) : Rests below v :=
  ⟨List.suffix_of_suffix_length_le h.suffix hscopes (Nat.le_of_lt hdepth), hdepth⟩

theorem cons (h : below <:+ w.scopes) {kind : String} (hscopes : v.scopes = kind :: w.scopes) :
    Rests below v := by
  refine ⟨hscopes ▸ h.trans (List.suffix_cons ..), ?_⟩
  rw [Writer.depth, hscopes, List.length_cons]
  exact Nat.lt_succ_of_le h.length_le

theorem exists_scopes (h : Rests below w) : ∃ left own, w.scopes = left ++ own :: below := by
  obtain ⟨opened, hopened⟩ := h.suffix
  have hdepth := h.deeper
  rw [Writer.depth, ← hopened, List.length_append] at hdepth
  rcases List.eq_nil_or_concat' opened with rfl | ⟨left, own, rfl⟩
  · simp at hdepth
  · exact ⟨left, own, by simp [← hopened]⟩

/-- The innermost scope is not one of those below. -/
theorem tail (h : Rests below w) : below <:+ w.scopes.tail := by
  refine List.suffix_of_suffix_length_le h.suffix (List.tail_suffix _) ?_
  rw [List.length_tail]
  exact Nat.le_sub_one_of_lt h.deeper

/-- A step that is refused, or after which the scopes are above those below. -/
theorem attempt {step : Step} {result : Except ScopeFault Writer} (h : Rests below w)
    (hresult : ∀ v, result = .ok v → below.length < v.depth → Rests below v)
    (habove : (Outcome.attempt step w result).StaysAbove below.length) :
    Rests below (Outcome.attempt step w result).writer := by
  cases result with
  | ok v => exact hresult v rfl habove.depth_of_ok
  | error fault => exact h

theorem within {step : Step} {header kind suffix : String} {body : Writer → Outcome}
    (h : Rests below w)
    (hbody : ∀ {u}, Rests below u → (body u).StaysAbove below.length → Rests below (body u).writer)
    (habove : (runWithin step (·.enterBlock header kind) suffix body w).StaysAbove below.length) :
    Rests below (runWithin step (·.enterBlock header kind) suffix body w).writer := by
  have hentered : Rests below (w.enterBlock header kind) := cons h.suffix rfl
  refine (hbody hentered habove.inside).of_suffix ?_ habove.behind
  rw [runWithin, Writer.scopes_closeTo]
  exact List.drop_suffix ..

end Rests

mutual

theorem Step.rests {below : List String} : ∀ (step : Step) {w : Writer}, Rests below w →
    (step.run w).StaysAbove below.length → Rests below (step.run w).writer
  | .line text, w, h, _ => ⟨h.suffix, h.deeper⟩
  | .blank, w, h, _ => ⟨h.suffix, h.deeper⟩
  | .enterBlock header kind, w, h, _ => .cons h.suffix rfl
  | .enterIf condition, w, h, _ => .cons h.suffix rfl
  | .enterElse, w, h, habove => h.attempt (fun v hv hdepth => by
      obtain ⟨-, rfl⟩ := Writer.enterElse_eq_ok.1 hv
      exact ⟨h.tail.trans (List.suffix_cons ..), hdepth⟩) habove
  | .enterMethod name argument, w, h, _ => .cons h.suffix rfl
  | .exitBlock suffix, w, h, habove => h.attempt (fun v hv hdepth => by
      obtain ⟨-, rfl⟩ := Writer.exitBlock_eq_ok.1 hv
      exact ⟨h.tail, hdepth⟩) habove
  | .exitMethod, w, h, habove => h.attempt (fun v hv hdepth => by
      obtain ⟨-, rfl⟩ := Writer.exitMethod_eq_ok.1 hv
      exact ⟨h.tail, hdepth⟩) habove
  | .text, w, h, _ => by
    rw [Step.run]
    split <;> exact h
  | .raise text, w, h, _ => h
  | .block header suffix body, w, h, habove => h.within (runAll_rests body) habove
  | .ifBlock condition body, w, h, habove => h.within (runAll_rests body) habove
  | .method name argument body, w, h, habove => h.within (runAll_rests body) habove
  | .append indent body, w, h, habove => by
    cases hraised : (runAll body { indent := indent }).raised with
    | some text =>
      rw [Step.run_append_of_raised hraised]
      exact h
    | none =>
      rw [Step.run_append_of_not_raised hraised] at habove ⊢
      refine h.attempt (fun v hv _ => ?_) habove
      obtain ⟨-, rfl⟩ := Writer.append_eq_ok.1 hv
      exact ⟨h.suffix, h.deeper⟩

/-- Steps that stay above some scopes leave them as they are. -/
theorem runAll_rests {below : List String} : ∀ (steps : List Step) {w : Writer}, Rests below w →
    (runAll steps w).StaysAbove below.length → Rests below (runAll steps w).writer
  | [], w, h, _ => h
  | step :: steps, w, h, habove => by
    have hfirst := step.rests h habove.first
    cases hraised : (step.run w).raised with
    | some text => rwa [runAll_of_raised hraised]
    | none =>
      rw [runAll_of_not_raised hraised]
      exact runAll_rests steps hfirst (habove.rest hraised)

end

/-! ## Closing lines -/

/-- The lines that close scopes, innermost first: each is as deep as there are scopes below its own,
and the last one carries the suffix. -/
def closingLines (suffix : String) (below : Nat) : List String → List Line
  | [] => []
  | [_] => [⟨below, "\x7d" ++ suffix⟩]
  | _ :: outer :: opened =>
    ⟨below + (outer :: opened).length, "\x7d"⟩ :: closingLines suffix below (outer :: opened)

namespace Writer

theorem closeMany_eq (suffix : String) (below : List String) :
    ∀ (opened : List String) (w : Writer),
    w.scopes = opened ++ below → w.closeMany suffix opened.length =
      { w with lines := w.lines ++ closingLines suffix below.length opened, scopes := below }
  | [], w, h => by
    obtain rfl : w.scopes = below := h
    simp [closeMany, closingLines]
  | [own], w, h => by simp [closeMany, close, pop, line, depth, closingLines, h]
  | kind :: outer :: opened, w, h => by
    have hscopes : (w.close "").scopes = (outer :: opened) ++ below := by
      simp [close, pop, line, h]
    have hlines : (w.close "").lines =
        w.lines ++ [⟨below.length + (outer :: opened).length, "\x7d"⟩] := by
      simp [close, pop, line, depth, h]
      omega
    rw [List.length_cons, List.length_cons, closeMany, ← List.length_cons,
      closeMany_eq suffix below _ _ hscopes, hlines, closingLines, List.append_assoc]
    rfl

/-- Where scopes are closed, the others stay and each of them gets a line. -/
theorem closeTo_eq {w : Writer} {opened below : List String} (suffix : String)
    (h : w.scopes = opened ++ below) : w.closeTo below.length suffix =
      { w with lines := w.lines ++ closingLines suffix below.length opened, scopes := below } := by
  have hcount : w.depth - below.length = opened.length := by
    rw [depth, h, List.length_append, Nat.add_sub_cancel]
  rw [closeTo, hcount]
  exact closeMany_eq suffix below opened w h

end Writer

/-! ## Managers -/

/-- What opens a scope around a body and closes it behind. -/
inductive Manager
  | block (header suffix : String)
  | ifBlock (condition : String)
  | method (name argument : String)
  /-- the guard of a value that may be null, with what the template makes of null -/
  | nullGuard (kind : ValueKind) (value template merged : String)
    (hguard : kind.requiresNullGuard = true) (hfill : Template.fill template "null" = .ok merged)

/-- How steps end: a raised text is a failure. -/
def Outcome.result (cause : String → Failure) (outcome : Outcome) : Except Failure Unit :=
  match outcome.raised with
  | none => .ok ()
  | some text => .error (cause text)

/-- The emission that takes steps. -/
def Emission.ofSteps (cause : String → Failure) (steps : List Step) : Emission Unit :=
  ExceptT.mk fun w => ((runAll steps w).result cause, (runAll steps w).writer)

namespace Manager

/-- The code of a manager around that of its body. -/
def around : Manager → Emission Unit → Emission Unit
  | block header suffix => Emission.block header suffix
  | ifBlock condition => Emission.ifBlock condition
  | method name argument => Emission.method name argument
  | nullGuard kind value template _ _ _ => Protogen.nullGuard kind value template

/-- A manager around steps is a step. -/
def step : Manager → List Step → Step
  | block header suffix, body => .block header suffix body
  | ifBlock condition, body => .ifBlock condition body
  | method name argument, body => .method name argument body
  | nullGuard _ value _ merged _ _, body =>
    .ifBlock (value ++ " === null") (.line merged :: .enterElse :: body)

/-- The steps in front of the body. -/
def opening : Manager → List Step
  | block header _ => [.enterBlock header "block"]
  | ifBlock condition => [.enterIf condition]
  | method name argument => [.enterMethod name argument]
  | nullGuard _ value _ merged _ _ =>
    [.enterIf (value ++ " === null"), .line merged, .enterElse]

/-- The writer on which the body is run. -/
def inner (m : Manager) (w : Writer) : Writer := (runAll m.opening w).writer

/-- What stands behind the brace of the last closing line. -/
def suffix : Manager → String
  | block _ suffix => suffix
  | ifBlock _ => ""
  | method _ _ => ";"
  | nullGuard .. => ""

theorem exists_scopes_inner (m : Manager) (w : Writer) :
    ∃ kind, (m.inner w).scopes = kind :: w.scopes := by
  cases m <;> exact ⟨_, rfl⟩

theorem run_around (m : Manager) (cause : String → Failure) (body : List Step) (w : Writer) :
    (m.around (.ofSteps cause body)).run w =
      ((runAll body (m.inner w)).result cause,
        (runAll body (m.inner w)).writer.closeTo w.depth m.suffix) := by
  cases m with
  | block | ifBlock | method => rfl
  | nullGuard kind value template merged hguard hfill =>
    rw [around, Protogen.nullGuard, if_pos hguard, hfill]
    refine Emits.run_within (r := (runAll body _).result cause) (v := (runAll body _).writer) ?_
    -- behind the line for null the innermost scope is still that of the condition
    have helse : Emission.enterElse.run ((w.enterIf (value ++ " === null")).line merged) =
        (.ok (), (nullGuard kind value template merged hguard hfill).inner w) := rfl
    show ((Emission.enterElse >>= fun _ => Emission.ofSteps cause body : Emission Unit).run
      ((w.enterIf (value ++ " === null")).line merged)) = _
    rw [run_bind_of_ok helse]
    rfl

theorem writer_step (m : Manager) (body : List Step) (w : Writer) :
    ((m.step body).run w).writer =
      (runAll body (m.inner w)).writer.closeTo w.depth m.suffix := by
  cases m with
  | block | ifBlock | method => rfl
  | nullGuard kind value template merged hguard hfill =>
    have hbegin : ∀ u : Writer, (runAll (.line merged :: .enterElse :: body)
        (u.enterIf (value ++ " === null"))).writer =
          (runAll body ((nullGuard kind value template merged hguard hfill).inner u)).writer := by
      intro u
      rw [runAll_of_not_raised rfl, runAll_of_not_raised rfl]
      rfl
    exact congrArg (·.closeTo w.depth "") (hbegin w)

/-- A body that stays above the scopes before the manager, and returns or raises a text: it may have
opened more scopes and have turned that of the manager into an alternative. Behind the manager the
scopes are those before, and each of the others was closed by a line of its own, innermost first, at
the depth of its header; the last line is that of the manager and has its suffix. -/
theorem restores_scopes (m : Manager) (cause : String → Failure) {body : List Step} {w : Writer}
    (h : (runAll body (m.inner w)).StaysAbove w.depth) :
    ∃ left own v, (runAll body (m.inner w)).writer.scopes = left ++ own :: w.scopes ∧
      v.scopes = w.scopes ∧ v.indent = w.indent ∧
      v.lines = (runAll body (m.inner w)).writer.lines ++
        closingLines m.suffix w.depth (left ++ [own]) ∧
      (m.around (.ofSteps cause body)).run w = ((runAll body (m.inner w)).result cause, v) ∧
      ((m.step body).run w).writer = v := by
  obtain ⟨kind, hinner⟩ := m.exists_scopes_inner w
  have hrests : Rests w.scopes (runAll body (m.inner w)).writer :=
    runAll_rests body (.cons (List.suffix_refl _) hinner) h
  obtain ⟨left, own, hscopes⟩ := hrests.exists_scopes
  have hopened : (runAll body (m.inner w)).writer.scopes = (left ++ [own]) ++ w.scopes := by
    rw [hscopes, List.append_assoc, List.singleton_append]
  have hclosed := Writer.closeTo_eq m.suffix hopened
  refine ⟨left, own, _, hscopes, ?_, ?_, ?_, m.run_around cause body w, m.writer_step body w⟩
  · rw [Writer.depth, hclosed]
  · rw [Writer.depth, hclosed]
    exact (runAll_writes body _).indent.trans (runAll_writes m.opening w).indent
  · rw [Writer.depth, hclosed]

/-- A body that opens a condition, turns it into its alternative, closes a block of its own, opens
another one and raises a text inside a method. -/
def leavingSteps : List Step :=
  [.enterIf "a", .enterElse, .block "b" "," [.enterBlock "c" "block"], .enterBlock "d" "block",
    .method "g" "" [.enterElse, .raise "stop"]]

/-- The guard of a message. -/
def userGuard : Manager :=
  .nullGuard (.message "acme.User") "obj.user" "msg.setUser(\x7b\x7d);" "msg.setUser(null);" rfl
    (by decide)

/-- A loop with a suffix. -/
def itemLoop : Manager := .block "list.forEach(item =>" ");"

/-- The leaving steps in a loop and in the alternative of a guard, both inside a method: all their
scopes are closed, the raised text passes through, and the method is still open. -/
theorem restores_scopes_leavingSteps :
    let w := ({} : Writer).enterMethod "f" "x"
    let body := Emission.ofSteps (fun _ => .scope .nothingToExit) leavingSteps
    (runAll leavingSteps (itemLoop.inner w)).StaysAbove w.depth ∧
      (runAll leavingSteps (userGuard.inner w)).StaysAbove w.depth ∧
      (∃ v, (itemLoop.around body).run w = (.error (.scope .nothingToExit), v) ∧
        v.scopes = ["method"] ∧ v.rendered = ["f = function(x) \x7b",
          "  list.forEach(item => \x7b", "    if (a) \x7b", "    \x7d else \x7b", "      b \x7b",
          "        c \x7b", "        \x7d", "      \x7d,", "      d \x7b",
          "        g = function() \x7b", "        \x7d;", "      \x7d", "    \x7d", "  \x7d);"]) ∧
      ∃ v, (userGuard.around body).run w = (.error (.scope .nothingToExit), v) ∧
        v.scopes = ["method"] ∧ v.rendered = ["f = function(x) \x7b",
          "  if (obj.user === null) \x7b", "    msg.setUser(null);", "  \x7d else \x7b",
          "    if (a) \x7b", "    \x7d else \x7b", "      b \x7b", "        c \x7b",
          "        \x7d", "      \x7d,", "      d \x7b", "        g = function() \x7b",
          "        \x7d;", "      \x7d", "    \x7d", "  \x7d"] := by
  intro w body
  have hloop : (runAll leavingSteps (itemLoop.inner w)).StaysAbove w.depth := by
    unfold Outcome.StaysAbove
    decide
  have hguard : (runAll leavingSteps (userGuard.inner w)).StaysAbove w.depth := by
    unfold Outcome.StaysAbove
    decide
  refine ⟨hloop, hguard, ?_, ?_⟩
  · obtain ⟨left, own, v, -, hscopes, -, -, hrun, rfl⟩ := restores_scopes itemLoop _ hloop
    exact ⟨_, hrun, hscopes, by decide⟩
  · obtain ⟨left, own, v, -, hscopes, -, -, hrun, rfl⟩ := restores_scopes userGuard _ hguard
    exact ⟨_, hrun, hscopes, by decide⟩

end Manager

end Protogen.Code
