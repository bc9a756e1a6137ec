import Protogen.Proofs.Code.Program

/-!
# Appending and writing in place

Steps are run on a new writer that is appended to another one, or on the other one itself.

* `Outcome.IsSmooth` says that every step went well and that no text was rendered.
* `Step.agrees` and `runAll_agrees`: what goes well on a writer goes well on one with more scopes
  below, writes lines with the same marks, and leaves the scopes below as they are.
* `append_eq_in_place`: the scopes and the rendered lines are the same in both ways.
-/

set_option autoImplicit false

namespace Protogen.Code

/-! ## Runs in which every step goes well -/

/-- The entry of a step that went well. -/
def Event.isDone : Event → Bool
  | .done .. => true
  | _ => false

/-- Every step went well, and no text was rendered. -/
structure Outcome.IsSmooth (outcome : Outcome) : Prop where
  raised : outcome.raised = none
  done : ∀ event ∈ outcome.record, event.isDone = true

namespace Outcome

variable {step : Step} {w : Writer}

theorem isSmooth_done : (Outcome.done step w).IsSmooth := by
  refine ⟨rfl, ?_⟩
  intro event hevent
  rw [List.mem_singleton.1 hevent]
  rfl

theorem IsSmooth.isDone_of_record_eq {outcome : Outcome} (h : outcome.IsSmooth) {event : Event}
    (hrecord : outcome.record = [event]) : event.isDone = true := by
  refine h.done event ?_
  rw [hrecord]
  exact List.mem_singleton_self event

/-- A step that may be refused was not. -/
theorem IsSmooth.exists_of_attempt {result : Except ScopeFault Writer}
    (h : (Outcome.attempt step w result).IsSmooth) : ∃ v, result = .ok v := by
  cases result with
  | ok v => exact ⟨v, rfl⟩
  | error fault => cases h.isDone_of_record_eq rfl

/-- A scope adds entries to the record of its body, which tell nothing new. -/
theorem isSmooth_runWithin {enter : Writer → Writer} {suffix : String} {body : Writer → Outcome} :
    (runWithin step enter suffix body w).IsSmooth ↔ (body (enter w)).IsSmooth := by
  constructor
  · rintro ⟨hraised, hdone⟩
    refine ⟨hraised, fun event hevent => hdone event ?_⟩
    exact List.mem_append_left _ (List.mem_cons_of_mem _ hevent)
  · rintro ⟨hraised, hdone⟩
    refine ⟨hraised, fun event hevent => ?_⟩
    rcases List.mem_append.1 hevent with hevent | hlast
    · rcases List.mem_cons.1 hevent with rfl | hbody
      · rfl
      · exact hdone event hbody
    · rw [List.mem_singleton.1 hlast, hraised]
      rfl

end Outcome

/-! ## More scopes below -/

namespace Writer

theorem scopes_closeMany (suffix : String) (n : Nat) (w : Writer) :
    (w.closeMany suffix n).scopes = w.scopes.drop n := by
  fun_induction closeMany suffix n w with
  | case1 w => rfl
  | case2 w => exact (List.drop_one).symm
  | case3 n w ih =>
    rw [ih]
    show w.scopes.tail.drop (n + 1) = _
    rw [List.drop_tail]

theorem scopes_closeTo (depth : Nat) (suffix : String) (w : Writer) :
    (w.closeTo depth suffix).scopes = w.scopes.drop (w.depth - depth) :=
  scopes_closeMany ..

end Writer

/-- A run goes well on a writer too that has more scopes below those of another one, with the same
lines, and leaves the scopes below as they are. -/
structure Agrees (below : List String) (run : Writer → Outcome) (marks : Writer → List Mark)
    (v u : Writer) : Prop where
  smooth : (run u).IsSmooth
  marks : marks u = marks v
  scopes : (run u).writer.scopes = (run v).writer.scopes ++ below

namespace Agrees

variable {below : List String} {v u : Writer}

/-- A line that is always written. -/
theorem write {step : Step} {m : Mark} (hscopes : u.scopes = v.scopes ++ below)
    (hm : m.closes = false) :
    Agrees below (fun w => .done step (w.write m)) (fun _ => [m]) v u := by
  refine ⟨Outcome.isSmooth_done, rfl, ?_⟩
  show m.scopes u.scopes = m.scopes v.scopes ++ below
  rw [hscopes, Mark.scopes_append (by simp [hm])]

/-- A line that is refused if the scopes do not fit. -/
theorem attempt (accepts : List String → Prop) {step : Step} {m : Mark}
    {op : Writer → Except ScopeFault Writer}
    (hop : ∀ w w', op w = .ok w' ↔ accepts w.scopes ∧ w' = w.write m)
    (haccepts : ∀ scopes, accepts scopes → scopes ≠ [] ∧ accepts (scopes ++ below))
    (hscopes : u.scopes = v.scopes ++ below) (h : (Outcome.attempt step v (op v)).IsSmooth) :
    Agrees below (fun w => .attempt step w (op w)) (fun w => accepted [m] (op w)) v u := by
  obtain ⟨v', hv⟩ := h.exists_of_attempt
  obtain ⟨hfits, rfl⟩ := (hop v v').1 hv
  obtain ⟨hne, hbelow⟩ := haccepts v.scopes hfits
  have hu : op u = .ok (u.write m) := (hop u _).2 ⟨hscopes ▸ hbelow, rfl⟩
  refine ⟨?_, ?_, ?_⟩
  · rw [hu]
    exact Outcome.isSmooth_done
  · rw [hu, hv]
    rfl
  · rw [hu, hv]
    show m.scopes u.scopes = m.scopes v.scopes ++ below
    rw [hscopes, Mark.scopes_append fun _ => hne]

/-- A scope around a body: the writers differ in their depths by as much before as behind it, so as
many scopes are closed on both. -/
theorem within {step : Step} {header kind suffix : String} {body : Writer → Outcome}
    {marks : Writer → List Mark} (hscopes : u.scopes = v.scopes ++ below)
    (hbody : ∀ {v u : Writer}, u.scopes = v.scopes ++ below → (body v).IsSmooth →
      Agrees below body marks v u)
    (h : (runWithin step (·.enterBlock header kind) suffix body v).IsSmooth) :
    Agrees below (runWithin step (·.enterBlock header kind) suffix body)
      (marksWithin header kind suffix body marks) v u := by
  have hentered : (u.enterBlock header kind).scopes =
      (v.enterBlock header kind).scopes ++ below := by
    rw [Writer.enterBlock_eq_write, Writer.enterBlock_eq_write]
    show kind :: u.scopes = kind :: v.scopes ++ below
    rw [hscopes, List.cons_append]
  obtain ⟨hsmooth, hmarks, hinner⟩ := hbody hentered (Outcome.isSmooth_runWithin.1 h)
  have hcount : (body (u.enterBlock header kind)).writer.depth - u.depth =
      (body (v.enterBlock header kind)).writer.depth - v.depth := by
    rw [Writer.depth, Writer.depth, hinner, hscopes, List.length_append, List.length_append,
      Nat.add_sub_add_right, Writer.depth, Writer.depth]
  refine ⟨Outcome.isSmooth_runWithin.2 hsmooth, ?_, ?_⟩
  · simp only [marksWithin, hmarks, hcount]
  · simp only [runWithin, Writer.scopes_closeTo, hcount]
    rw [hinner, List.drop_append_of_le_length]
    exact Nat.sub_le ..

end Agrees

theorem head?_append_of_eq_some {kind : String} {scopes : List String} (below : List String)
    (h : scopes.head? = some kind) : scopes ≠ [] ∧ (scopes ++ below).head? = some kind := by
  obtain ⟨rest, rfl⟩ := List.head?_eq_some_iff.1 h
  exact ⟨List.cons_ne_nil kind rest, rfl⟩

mutual

theorem Step.agrees {below : List String} : ∀ (step : Step) {v u : Writer},
    u.scopes = v.scopes ++ below → (step.run v).IsSmooth → Agrees below step.run step.marks v u
  | .line text, v, u, hscopes, _ => .write (m := .plain text) hscopes rfl
  | .blank, v, u, hscopes, _ => .write (m := .blank) hscopes rfl
  | .enterBlock header kind, v, u, hscopes, _ => .write (m := .header header kind) hscopes rfl
  | .enterIf condition, v, u, hscopes, _ =>
    .write (m := .header ("if (" ++ condition ++ ")") "if") hscopes rfl
  | .enterElse, v, u, hscopes, h =>
    .attempt (·.head? = some "if") (fun _ _ => Writer.enterElse_eq_ok)
      (fun _ hif => head?_append_of_eq_some below hif) hscopes h
  | .enterMethod name argument, v, u, hscopes, _ =>
    .write (m := .header (name ++ " = function(" ++ argument ++ ")") "method") hscopes rfl
  | .exitBlock suffix, v, u, hscopes, h =>
    .attempt (· ≠ []) (fun _ _ => Writer.exitBlock_eq_ok)
      (fun _ hne => ⟨hne, List.append_ne_nil_of_left_ne_nil hne below⟩) hscopes h
  | .exitMethod, v, u, hscopes, h =>
    .attempt (·.head? = some "method") (fun _ _ => Writer.exitMethod_eq_ok)
      (fun _ hmethod => head?_append_of_eq_some below hmethod) hscopes h
  | .text, v, u, _, h => by
    rw [Step.run] at h
    split at h
    · cases h.isDone_of_record_eq rfl
    · cases h.isDone_of_record_eq rfl
  | .raise text, v, u, _, h => by cases h.raised
  | .block header suffix body, v, u, hscopes, h =>
    .within hscopes (fun hscopes h => runAll_agrees body hscopes h) h
  | .ifBlock condition body, v, u, hscopes, h =>
    .within hscopes (fun hscopes h => runAll_agrees body hscopes h) h
  | .method name argument body, v, u, hscopes, h =>
    .within hscopes (fun hscopes h => runAll_agrees body hscopes h) h
  | .append indent body, v, u, hscopes, h => by
    cases hraised : (runAll body { indent := indent }).raised with
    | some text =>
      rw [Step.run_append_of_raised hraised] at h
      cases h.raised
    | none =>
      rw [Step.run_append_of_not_raised hraised] at h
      obtain ⟨v', hv⟩ := h.exists_of_attempt
      obtain ⟨hclosed, rfl⟩ := Writer.append_eq_ok.1 hv
      have hu := Writer.append_eq_ok (w := u).2 ⟨hclosed, rfl⟩
      refine ⟨?_, ?_, ?_⟩
      · rw [Step.run_append_of_not_raised hraised, hu]
        exact Outcome.isSmooth_done
      · rw [Step.marks_append_of_not_raised hraised, Step.marks_append_of_not_raised hraised, hu,
          hv]
        rfl
      · rw [Step.run_append_of_not_raised hraised, Step.run_append_of_not_raised hraised, hu, hv]
        exact hscopes

theorem runAll_agrees {below : List String} : ∀ (steps : List Step) {v u : Writer},
    u.scopes = v.scopes ++ below → (runAll steps v).IsSmooth →
      Agrees below (runAll steps) (marksAll steps) v u
  | [], v, u, hscopes, _ => ⟨⟨rfl, nofun⟩, rfl, hscopes⟩
  | step :: steps, v, u, hscopes, h => by
    cases hraised : (step.run v).raised with
    | some text =>
      rw [runAll_of_raised hraised] at h
      cases hraised.symm.trans h.raised
    | none =>
      rw [runAll_of_not_raised hraised] at h
      have hfirst : (step.run v).IsSmooth :=
        ⟨hraised, fun event hevent => h.done event (List.mem_append_left _ hevent)⟩
      have hrest : (runAll steps (step.run v).writer).IsSmooth :=
        ⟨h.raised, fun event hevent => h.done event (List.mem_append_right _ hevent)⟩
      obtain ⟨hsmooth, hmarks, hnext⟩ := step.agrees hscopes hfirst
      obtain ⟨hsmooth', hmarks', hend⟩ := runAll_agrees steps hnext hrest
      refine ⟨?_, ?_, ?_⟩
      · rw [runAll_of_not_raised hsmooth.raised]
        refine ⟨hsmooth'.raised, fun event hevent => ?_⟩
        exact (List.mem_append.1 hevent).elim (hsmooth.done event) (hsmooth'.done event)
      · rw [marksAll_of_not_raised hsmooth.raised, marksAll_of_not_raised hraised, hmarks, hmarks']
      · rw [runAll_of_not_raised hsmooth.raised, runAll_of_not_raised hraised]
        exact hend

end

/-- Steps that go well on a new writer and leave no scope open: appending what they wrote to another
writer, whatever is open there and whatever the two indents are, and running them on that writer
give the same scopes and the same rendered lines, and they go well there too. -/
theorem append_eq_in_place {steps : List Step} {indent : String} (outer : Writer)
    (h : (runAll steps { indent := indent }).IsSmooth)
    (hclosed : (runAll steps { indent := indent }).writer.scopes = []) :
    ∃ appended, outer.append (runAll steps { indent := indent }).writer = .ok appended ∧
      (runAll steps outer).IsSmooth ∧
      appended.scopes = (runAll steps outer).writer.scopes ∧
      appended.rendered = (runAll steps outer).writer.rendered := by
  have hagrees : Agrees outer.scopes (runAll steps) (marksAll steps) { indent := indent } outer :=
    runAll_agrees steps rfl h
  obtain ⟨hsmooth, hmarks, -⟩ := hagrees
  refine ⟨outer.continuedBy (runAll steps { indent := indent }).writer, ?_, hsmooth, ?_⟩
  · rw [Writer.append_eq_ok]
    refine ⟨hclosed, ?_⟩
    rw [Writer.continuedBy, hclosed, List.nil_append]
  · have hinner := (runAll_writes steps { indent := indent }).continued outer
    have hplace := runAll_writes steps outer
    rw [hmarks] at hplace
    exact hplace.sameCode hinner rfl rfl rfl

/-- A condition with its alternative, appended code and an empty line, in a block that its own body
closes early. -/
def smoothSteps : List Step :=
  [.block "a" "," [.enterIf "b", .line "c", .enterElse,
    .append "    " [.method "f" "x" [.blank, .line "d"]], .exitBlock "", .exitBlock ";", .line "e"]]

/-- The smooth steps go well, and inside a method too, where the indent is another one. -/
theorem append_eq_in_place_smoothSteps :
    let inner := (runAll smoothSteps {}).writer
    let outer := ({ indent := "\t" } : Writer).enterMethod "g" "y"
    inner.rendered = ["a \x7b", "  if (b) \x7b", "    c", "  \x7d else \x7b",
      "    f = function(x) \x7b", "", "      d", "    \x7d;", "  \x7d", "\x7d;", "e"] ∧
    ∃ appended, outer.append inner = .ok appended ∧ (runAll smoothSteps outer).IsSmooth ∧
      appended.scopes = (runAll smoothSteps outer).writer.scopes ∧
      appended.rendered = (runAll smoothSteps outer).writer.rendered := by
  have hsmooth : (runAll smoothSteps {}).IsSmooth := ⟨by decide, by decide⟩
  exact ⟨by decide, append_eq_in_place _ hsmooth (by decide)⟩

end Protogen.Code
