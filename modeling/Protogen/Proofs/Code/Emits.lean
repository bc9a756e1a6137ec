import Protogen.Code.Emission
import Protogen.Proofs.Failure

/-!
# What an emission writes, wherever it is run

`Emits e r ls` says that the emission `e` has the outcome `r` and writes the lines `ls`, given
relative to the depth at which it starts, on every writer, and that it leaves the open scopes as
they were. The property composes along `>>=` and through blocks, so that the code above never
looks at a writer again.

* `Emits.bind`, `Emits.bind_error`, `Emits.forM` follow a sequence of emissions;
  `Emits.run_attempt` is a single step of a writer.
* `Emits.within` and its instances follow a block; `Emits.ifElse` a condition with an
  alternative.
* `Emits.result_unique` and `Emits.written` read the outcome off a new writer.
* `Follows e plan lines` says that `e` fails exactly like `plan`, which writes nothing, and that
  otherwise it writes the lines of what was planned. It composes in the same way.
-/

set_option autoImplicit false

namespace Protogen.Code

variable {α β : Type}

/-! ## Lines behind the ones of a writer -/

namespace Writer

/-- The writer with more lines, given relative to its depth. -/
def extend (w : Writer) (ls : List Line) : Writer :=
  { w with lines := w.lines ++ ls.map (shift w.depth) }

@[simp] theorem extend_scopes (w : Writer) (ls : List Line) : (w.extend ls).scopes = w.scopes :=
  rfl

@[simp] theorem extend_indent (w : Writer) (ls : List Line) : (w.extend ls).indent = w.indent :=
  rfl

@[simp] theorem extend_depth (w : Writer) (ls : List Line) : (w.extend ls).depth = w.depth := rfl

@[simp] theorem extend_nil (w : Writer) : w.extend [] = w := by simp [extend]

theorem extend_extend (w : Writer) (ls ls' : List Line) :
    (w.extend ls).extend ls' = w.extend (ls ++ ls') := by
  simp [extend, depth]

@[simp] theorem shift_text (n : Nat) (l : Line) : (shift n l).text = l.text := by
  unfold shift
  split <;> rfl

theorem shift_of_ne (n depth : Nat) {text : String} (h : text ≠ "") :
    shift n ⟨depth, text⟩ = ⟨n + depth, text⟩ := by
  rw [shift, if_neg]
  rw [String.isEmpty_iff]
  exact h

theorem shift_shift (m n : Nat) (l : Line) : shift m (shift n l) = shift (m + n) l := by
  obtain ⟨depth, text⟩ := l
  by_cases h : text = ""
  · simp [shift, h]
  · rw [shift_of_ne n depth h, shift_of_ne m _ h, shift_of_ne _ depth h, Nat.add_assoc]

theorem indented_of_ne (indent : String) (depth : Nat) {text : String} (h : text ≠ "") :
    indented indent ⟨depth, text⟩ = String.join (List.replicate depth indent) ++ text := by
  rw [indented, if_neg]
  rw [String.isEmpty_iff]
  exact h

/-- A line that is not moved looks the same. -/
theorem indented_shift_zero (indent : String) (l : Line) :
    indented indent (shift 0 l) = indented indent l := by
  obtain ⟨depth, text⟩ := l
  by_cases h : text = ""
  · simp [shift, indented, h]
  · rw [shift_of_ne 0 depth h, Nat.zero_add]

/-- A line stands behind blanks. -/
theorem exists_toList_indented (l : Line) :
    ∃ blanks : List Char, (∀ c ∈ blanks, c = ' ') ∧
      (indented "  " l).toList = blanks ++ l.text.toList := by
  have hblank : ∀ c ∈ (String.join (List.replicate l.depth "  ")).toList, c = ' ' := by
    intro c hc
    rw [String.toList_join, List.mem_flatMap] at hc
    obtain ⟨text, htext, hc⟩ := hc
    rw [List.eq_of_mem_replicate htext] at hc
    simpa using hc
  by_cases hempty : l.text = ""
  · exact ⟨[], by simp, by simp [indented, hempty]⟩
  · exact ⟨_, hblank, by rw [indented_of_ne _ _ hempty, String.toList_append]⟩

theorem line_eq_extend (w : Writer) {text : String} (h : text ≠ "") :
    w.line text = w.extend [⟨0, text⟩] := by
  simp [line, extend, shift_of_ne _ _ h]

theorem blank_eq_extend (w : Writer) : w.blank = w.extend [⟨0, ""⟩] := by
  simp [blank, extend, shift]

/-- Closing as many scopes as are open beyond a depth, if that is one. -/
theorem closeTo_of_depth_eq {w : Writer} {n : Nat} (suffix : String) (h : w.depth = n + 1) :
    w.closeTo n suffix = w.close suffix := by
  simp [closeTo, h, closeMany]

/-- A block around lines: the scope is gone, its header and closing line stay. -/
theorem close_extend (w : Writer) (header kind suffix : String) (ls : List Line) :
    ((w.enterBlock header kind).extend ls).close suffix =
      w.extend (⟨0, header ++ " \x7b"⟩ :: ls.map (shift 1) ++ [⟨0, "\x7d" ++ suffix⟩]) := by
  have hopen : header ++ " \x7b" ≠ "" := by simp
  have hclose : "\x7d" ++ suffix ≠ "" := by simp
  have hinner : ∀ l : Line, shift w.depth (shift 1 l) = shift (w.depth + 1) l :=
    fun l => shift_shift w.depth 1 l
  rw [enterBlock, line_eq_extend w hopen]
  simp [close, pop, line, push, extend, depth, shift_of_ne _ _ hclose]
  intro l _
  exact (hinner l).symm

end Writer

/-! ## Emissions -/

/-- The emission has an outcome and writes lines, the same ones on every writer, and leaves the
open scopes as they were. -/
def Emits (e : Emission α) (r : Except Failure α) (ls : List Line) : Prop :=
  ∀ w, e.run w = (r, w.extend ls)

namespace Emits

open Emission

variable {e : Emission α} {r : Except Failure α} {ls ls' : List Line}

/-- An outcome does not depend on the writer, nor do the lines. -/
theorem result_unique {r' : Except Failure α} (h : Emits e r ls) (h' : Emits e r' ls') :
    r = r' ∧ ls.map (Writer.shift 0) = ls'.map (Writer.shift 0) := by
  have heq := (h {}).symm.trans (h' {})
  obtain ⟨hr, hw⟩ := Prod.mk.inj heq
  exact ⟨hr, by simpa [Writer.extend, Writer.depth] using hw⟩

theorem pure (a : α) : Emits (Pure.pure a) (.ok a) [] := by
  intro w
  rw [Writer.extend_nil]
  rfl

theorem demand (r : Except Failure α) : Emits (Emission.demand r) r [] := by
  intro w
  rw [Writer.extend_nil]
  rfl

theorem bind {k : α → Emission β} {a : α} {s : Except Failure β} (h : Emits e (.ok a) ls)
    (hk : Emits (k a) s ls') : Emits (e >>= k) s (ls ++ ls') := by
  intro w
  have hrun : (e >>= k).run w = (k a).run (w.extend ls) := by
    show ExceptT.run (ExceptT.bind e k) w = _
    have he : e.run w = (.ok a, w.extend ls) := h w
    simp only [ExceptT.bind, ExceptT.run, ExceptT.mk] at he ⊢
    show (StateT.bind e (ExceptT.bindCont k)) w = _
    simp only [StateT.bind]
    rw [he]
    rfl
  rw [hrun, hk, Writer.extend_extend]

theorem bind_error {k : α → Emission β} {failure : Failure} (h : Emits e (.error failure) ls) :
    Emits (e >>= k) (.error failure) ls := by
  intro w
  have he : e.run w = (.error failure, w.extend ls) := h w
  show (StateT.bind e (ExceptT.bindCont k)) w = _
  simp only [StateT.bind]
  simp only [ExceptT.run] at he
  rw [he]
  rfl

theorem line {text : String} (h : text ≠ "") :
    Emits (Emission.line text) (.ok ()) [⟨0, text⟩] := by
  intro w
  rw [← Writer.line_eq_extend w h]
  rfl

theorem blank : Emits Emission.blank (.ok ()) [⟨0, ""⟩] := by
  intro w
  rw [← Writer.blank_eq_extend w]
  rfl

theorem lines {texts : List String} (h : ∀ text ∈ texts, text ≠ "") :
    Emits (Emission.lines texts) (.ok ()) (texts.map fun text => ⟨0, text⟩) := by
  induction texts with
  | nil => exact pure ()
  | cons text texts ih =>
    have hrest := ih fun t ht => h t (List.mem_cons_of_mem _ ht)
    exact (line (h text (List.mem_cons_self ..))).bind hrest

/-- A step that goes well leads to its result. -/
theorem run_attempt {step : Writer → Except ScopeFault Writer} {w next : Writer}
    (h : step w = .ok next) : (Emission.attempt step).run w = (.ok (), next) := by
  have hstep : (Emission.attempt step).run w = (Emission.attempt fun _ => step w).run w := rfl
  rw [hstep, h]
  rfl

/-- A step that fails leaves the writer as it is. -/
theorem run_attempt_error {step : Writer → Except ScopeFault Writer} {w : Writer}
    {fault : ScopeFault} (h : step w = .error fault) :
    (Emission.attempt step).run w = (.error (.scope fault), w) := by
  have hstep : (Emission.attempt step).run w = (Emission.attempt fun _ => step w).run w := rfl
  rw [hstep, h]
  rfl

/-- The lines of a writer without open scopes. -/
theorem append {other : Writer} (h : other.scopes = []) :
    Emits (Emission.append other) (.ok ()) other.lines := by
  intro w
  have happend : w.append other = .ok (w.extend other.lines) := by
    simp [Writer.append, h, Writer.extend]
  exact run_attempt happend

/-- The lines of a list of emissions that all go well. -/
theorem forM {items : List β} {k : β → Emission Unit} {code : β → List Line}
    (h : ∀ item ∈ items, Emits (k item) (.ok ()) (code item)) :
    Emits (items.forM k) (.ok ()) (items.flatMap code) := by
  induction items with
  | nil => exact pure ()
  | cons item items ih =>
    have hrest := ih fun i hi => h i (List.mem_cons_of_mem _ hi)
    rw [List.flatMap_cons]
    exact (h item (List.mem_cons_self ..)).bind hrest

/-- Where a body ends, the scopes beyond those at its beginning are closed. -/
theorem run_within {enter : Writer → Writer} {suffix : String} {body : Emission Unit}
    {r : Except Failure Unit} {w v : Writer} (h : body.run (enter w) = (r, v)) :
    (Emission.within enter suffix body).run w = (r, v.closeTo w.depth suffix) := by
  show Writer.within enter suffix body.run w = _
  simp only [Writer.within]
  rw [h]

/-- A block around an emission: its lines are one level deeper, and the closing line is written
whatever the outcome. -/
theorem within {header kind suffix : String} {body : Emission Unit}
    {r : Except Failure Unit} (h : Emits body r ls) :
    Emits (Emission.within (·.enterBlock header kind) suffix body) r
      (⟨0, header ++ " \x7b"⟩ :: ls.map (Writer.shift 1) ++ [⟨0, "\x7d" ++ suffix⟩]) := by
  intro w
  have hbody : body.run (w.enterBlock header kind) = (r, (w.enterBlock header kind).extend ls) :=
    h _
  have hdepth : ((w.enterBlock header kind).extend ls).depth = w.depth + 1 := by
    simp [Writer.depth, Writer.enterBlock, Writer.push, Writer.line]
  rw [← Writer.close_extend w header kind suffix ls, ← Writer.closeTo_of_depth_eq suffix hdepth]
  exact run_within hbody

theorem block {header suffix : String} {body : Emission Unit} {r : Except Failure Unit}
    (h : Emits body r ls) :
    Emits (Emission.block header suffix body) r
      (⟨0, header ++ " \x7b"⟩ :: ls.map (Writer.shift 1) ++ [⟨0, "\x7d" ++ suffix⟩]) :=
  within h

theorem ifBlock {condition : String} {body : Emission Unit} {r : Except Failure Unit}
    (h : Emits body r ls) :
    Emits (Emission.ifBlock condition body) r
      (⟨0, "if (" ++ condition ++ ")" ++ " \x7b"⟩ :: ls.map (Writer.shift 1) ++ [⟨0, "\x7d"⟩]) :=
  within h

theorem method {name argument : String} {body : Emission Unit} {r : Except Failure Unit}
    (h : Emits body r ls) :
    Emits (Emission.method name argument body) r
      (⟨0, name ++ " = function(" ++ argument ++ ")" ++ " \x7b"⟩ :: ls.map (Writer.shift 1) ++
        [⟨0, "\x7d;"⟩]) :=
  within h

/-- A condition whose code is one line, with an alternative. -/
theorem ifElse {condition text : String} (htext : text ≠ "") {body : Emission Unit}
    {r : Except Failure Unit} (h : Emits body r ls) :
    Emits (Emission.ifBlock condition (do Emission.line text; enterElse; body)) r
      (⟨0, "if (" ++ condition ++ ")" ++ " \x7b"⟩ :: ⟨1, text⟩ :: ⟨0, "\x7d else \x7b"⟩ ::
        ls.map (Writer.shift 1) ++ [⟨0, "\x7d"⟩]) := by
  intro w
  -- the writer on which the alternative is written
  obtain ⟨v, hv⟩ : ∃ v, v =
      ((((w.enterIf condition).line text).pop.line "\x7d else \x7b").push "else") := ⟨_, rfl⟩
  have helse : ((w.enterIf condition).line text).enterElse = .ok v := by
    simp [Writer.enterElse, Writer.enterIf, Writer.enterBlock, Writer.push, Writer.line, hv]
  have hbody : (do Emission.line text; enterElse; body : Emission Unit).run (w.enterIf condition)
      = (r, v.extend ls) := by
    rw [← h v]
    show (ExceptT.run (Emission.attempt Writer.enterElse >>= fun _ => body))
      ((w.enterIf condition).line text) = _
    rw [Protogen.run_bind, run_attempt helse]
  have hdepth : (v.extend ls).depth = w.depth + 1 := by
    simp [hv, Writer.depth, Writer.push, Writer.line, Writer.pop, Writer.enterIf,
      Writer.enterBlock]
  have hclose : (v.extend ls).close "" =
      w.extend (⟨0, "if (" ++ condition ++ ")" ++ " \x7b"⟩ :: ⟨1, text⟩ :: ⟨0, "\x7d else \x7b"⟩ ::
        ls.map (Writer.shift 1) ++ [⟨0, "\x7d"⟩]) := by
    have htop : ∀ {n : Nat} {s : String}, s ≠ "" →
        Writer.shift w.depth ⟨n, s⟩ = ⟨w.depth + n, s⟩ :=
      fun hs => Writer.shift_of_ne w.depth _ hs
    have hinner : ∀ l : Line,
        Writer.shift w.depth (Writer.shift 1 l) = Writer.shift (w.depth + 1) l :=
      fun l => Writer.shift_shift w.depth 1 l
    simp only [Writer.depth] at htop hinner
    simp [hv, Writer.close, Writer.extend, Writer.pop, Writer.line, Writer.push, Writer.enterIf,
      Writer.enterBlock, Writer.depth, htop, htext, hinner, Function.comp_def]
  rw [← hclose, ← Writer.closeTo_of_depth_eq "" hdepth]
  exact run_within hbody

/-- The lines that an emission writes on a new writer. -/
theorem written {e : Emission Unit} (h : Emits e (.ok ()) ls) :
    e.written = .ok { lines := ls.map (Writer.shift 0) } := by
  have hrun : e.run {} = (.ok (), Writer.extend {} ls) := h {}
  simp only [Emission.written]
  rw [hrun]
  simp [Writer.extend, Writer.depth]

theorem written_error {e : Emission Unit} {failure : Failure}
    (h : Emits e (.error failure) ls) : e.written = .error failure := by
  have hrun : e.run {} = (.error failure, Writer.extend {} ls) := h {}
  simp only [Emission.written]
  rw [hrun]

/-- Lines may be given as they are on a new writer. -/
theorem normalize (h : Emits e r ls) : Emits e r (ls.map (Writer.shift 0)) := by
  intro w
  have hsame : w.extend (ls.map (Writer.shift 0)) = w.extend ls := by
    simp [Writer.extend, Writer.shift_shift]
  rw [hsame]
  exact h w

end Emits

/-! ## Emissions that follow a plan -/

/-- The emission fails as the plan does; if the plan is made, its lines are written. -/
def Follows (e : Emission Unit) (plan : Except Failure α) (lines : α → List Line) : Prop :=
  ∃ ls, Emits e (plan.map fun _ => ()) ls ∧ ∀ p, plan = .ok p → ls = lines p

namespace Follows

variable {e : Emission Unit} {plan : Except Failure α} {lines : α → List Line}

theorem ok {p : α} (h : Emits e (.ok ()) (lines p)) : Follows e (.ok p) lines := by
  refine ⟨lines p, h, ?_⟩
  rintro q ⟨⟩
  rfl

theorem error {failure : Failure} {ls : List Line} (h : Emits e (.error failure) ls) :
    Follows e (.error failure) lines := by
  refine ⟨ls, h, ?_⟩
  rintro q ⟨⟩

/-- An emission follows what it writes on a new writer. -/
theorem of_emits {e : Emission Unit} {r : Except Failure Unit} {ls : List Line}
    (h : Emits e r ls) : Follows e e.written Writer.lines := by
  cases r with
  | error failure =>
    rw [h.written_error]
    exact error h
  | ok done =>
    rw [h.written]
    exact ok h.normalize

/-- What is written on a new writer, and when nothing is. -/
theorem written (h : Follows e plan lines) :
    e.written = plan.map fun p => ({ lines := (lines p).map (Writer.shift 0) } : Writer) := by
  obtain ⟨ls, hls, hlines⟩ := h
  cases plan with
  | error failure => exact hls.written_error
  | ok p =>
    rw [hls.written, hlines p rfl]
    rfl

/-- What is demanded first is planned first. -/
theorem demand {r : Except Failure β} {k : β → Emission Unit} {next : β → Except Failure α}
    (h : ∀ b, r = .ok b → Follows (k b) (next b) lines) :
    Follows (Emission.demand r >>= k) (r >>= next) lines := by
  cases r with
  | error failure => exact error (Emits.bind_error (Emits.demand (.error failure)))
  | ok b =>
    obtain ⟨ls, hls, hlines⟩ := h b rfl
    exact ⟨[] ++ ls, (Emits.demand (.ok b)).bind hls, hlines⟩

/-- What is planned first may be a part of what is demanded first. -/
theorem demand_map {γ : Type} {r : Except Failure γ} {g : γ → β} {k : β → Emission Unit}
    {next : γ → Except Failure α} (h : ∀ c, r = .ok c → Follows (k (g c)) (next c) lines) :
    Follows (Emission.demand (r.map g) >>= k) (r >>= next) lines := by
  cases r with
  | error failure => exact error (Emits.bind_error (Emits.demand (.error failure)))
  | ok c =>
    obtain ⟨ls, hls, hlines⟩ := h c rfl
    exact ⟨[] ++ ls, (Emits.demand (.ok (g c))).bind hls, hlines⟩

theorem block {header suffix : String} (h : Follows e plan lines) :
    Follows (Emission.block header suffix e) plan fun p =>
      ⟨0, header ++ " \x7b"⟩ :: (lines p).map (Writer.shift 1) ++ [⟨0, "\x7d" ++ suffix⟩] := by
  obtain ⟨ls, hls, hlines⟩ := h
  refine ⟨_, hls.block, ?_⟩
  intro p hp
  rw [hlines p hp]

theorem ifBlock {condition : String} (h : Follows e plan lines) :
    Follows (Emission.ifBlock condition e) plan fun p =>
      ⟨0, "if (" ++ condition ++ ")" ++ " \x7b"⟩ :: (lines p).map (Writer.shift 1) ++
        [⟨0, "\x7d"⟩] := by
  obtain ⟨ls, hls, hlines⟩ := h
  refine ⟨_, hls.ifBlock, ?_⟩
  intro p hp
  rw [hlines p hp]

theorem method {name argument : String} (h : Follows e plan lines) :
    Follows (Emission.method name argument e) plan fun p =>
      ⟨0, name ++ " = function(" ++ argument ++ ")" ++ " \x7b"⟩ ::
        (lines p).map (Writer.shift 1) ++ [⟨0, "\x7d;"⟩] := by
  obtain ⟨ls, hls, hlines⟩ := h
  refine ⟨_, hls.method, ?_⟩
  intro p hp
  rw [hlines p hp]

theorem ifElse {condition text : String} (htext : text ≠ "") (h : Follows e plan lines) :
    Follows (Emission.ifBlock condition (do Emission.line text; Emission.enterElse; e)) plan fun p =>
      ⟨0, "if (" ++ condition ++ ")" ++ " \x7b"⟩ :: ⟨1, text⟩ :: ⟨0, "\x7d else \x7b"⟩ ::
        (lines p).map (Writer.shift 1) ++ [⟨0, "\x7d"⟩] := by
  obtain ⟨ls, hls, hlines⟩ := h
  refine ⟨_, hls.ifElse htext, ?_⟩
  intro p hp
  rw [hlines p hp]

/-- Lines in front of what is planned. -/
theorem after {first : Emission β} {b : β} {ls : List Line} {k : β → Emission Unit}
    (hfirst : Emits first (.ok b) ls) (h : Follows (k b) plan lines) :
    Follows (first >>= k) plan fun p => ls ++ lines p := by
  obtain ⟨rest, hrest, hlines⟩ := h
  refine ⟨_, hfirst.bind hrest, ?_⟩
  intro p hp
  rw [hlines p hp]

/-- The outcome of the plan may be put in other words. -/
theorem congr {next : Except Failure β} {lines' : β → List Line} {g : α → β}
    (h : Follows e plan lines) (hplan : next = plan.map g)
    (hlines : ∀ p, plan = .ok p → lines' (g p) = lines p) : Follows e next lines' := by
  obtain ⟨ls, hls, heq⟩ := h
  subst hplan
  cases plan with
  | error failure => exact error hls
  | ok p => exact ok (by rw [hlines p rfl, ← heq p rfl]; exact hls)

/-- Code behind what is planned. -/
theorem before {rest : Emission Unit} {ls : List Line} (h : Follows e plan lines)
    (hrest : Emits rest (.ok ()) ls) :
    Follows (e >>= fun _ => rest) plan fun p => lines p ++ ls := by
  obtain ⟨ls', hls, hlines⟩ := h
  cases plan with
  | error failure => exact error hls.bind_error
  | ok p =>
    refine ok ?_
    rw [← hlines p rfl]
    exact hls.bind hrest

/-- Items one after the other, each with a plan of its own. -/
theorem forM {items : List β} {k : β → Emission Unit} {planned : β → Except Failure α}
    (h : ∀ item ∈ items, Follows (k item) (planned item) lines) :
    Follows (items.forM k) (items.mapM planned) fun plans => plans.flatMap lines := by
  induction items with
  | nil => exact ok (Emits.pure ())
  | cons item items ih =>
    obtain ⟨first, hfirst, hlines⟩ := h item (List.mem_cons_self ..)
    have hrest := ih fun i hi => h i (List.mem_cons_of_mem _ hi)
    rw [List.mapM_cons]
    cases hp : planned item with
    | error failure =>
      rw [hp] at hfirst
      exact error hfirst.bind_error
    | ok p =>
      rw [hp] at hfirst
      refine (after hfirst hrest).congr (g := (p :: ·)) ?_ ?_
      · cases items.mapM planned <;> rfl
      · intro plans _
        rw [List.flatMap_cons, hlines p hp]

end Follows

end Protogen.Code
