import Protogen.Proofs.Code.Emits
import Protogen.Proofs.Failure

/-!
# Outcomes of emissions

`Yields e r` says that the emission `e` has the outcome `r` on every writer, whatever it writes.

* `Yields.bind` and `Yields.bind_error` follow a sequence of emissions, `Yields.forM` a list, whose
  outcome is that of the first item to fail.
* `Yields.within` and `Yields.ifElse` follow blocks.
* `Yields.of_written` reads the outcome off a new writer, if there is one outcome at all
  (`IsDetermined`).
-/

set_option autoImplicit false

namespace Protogen.Code

variable {α β : Type}

/-- The emission has an outcome, the same one on every writer. -/
def Yields (e : Emission α) (r : Except Failure α) : Prop := ∀ w, (e.run w).1 = r

/-- The emission has one outcome. -/
def IsDetermined (e : Emission α) : Prop := ∃ r, Yields e r

namespace Yields

variable {e : Emission α} {r : Except Failure α}

theorem of_emits {ls : List Line} (h : Emits e r ls) : Yields e r := by
  intro w
  rw [h w]

theorem demand (r : Except Failure α) : Yields (Emission.demand r) r := fun _ => rfl

theorem line (text : String) : Yields (Emission.line text) (.ok ()) := fun _ => rfl

theorem bind {k : α → Emission β} {a : α} {s : Except Failure β} (h : Yields e (.ok a))
    (hk : Yields (k a) s) : Yields (e >>= k) s := by
  intro w
  rw [run_bind]
  have hw := h w
  rcases hrun : e.run w with ⟨outcome, v⟩
  rw [hrun] at hw
  cases hw
  exact hk v

theorem bind_error {k : α → Emission β} {failure : Failure} (h : Yields e (.error failure)) :
    Yields (e >>= k) (.error failure) := by
  intro w
  rw [run_bind]
  have hw := h w
  rcases hrun : e.run w with ⟨outcome, v⟩
  rw [hrun] at hw
  cases hw
  rfl

/-- The outcome of a list of emissions is that of the first one to fail. -/
theorem forM {items : List β} {k : β → Emission Unit} {outcome : β → Except Failure Unit}
    (h : ∀ item ∈ items, Yields (k item) (outcome item)) :
    Yields (items.forM k) ((items.mapM outcome).map fun _ => ()) := by
  induction items with
  | nil => exact fun _ => rfl
  | cons item items ih =>
    have hfirst := h item (List.mem_cons_self ..)
    have hrest := ih fun i hi => h i (List.mem_cons_of_mem _ hi)
    rw [List.mapM_cons]
    cases ho : outcome item with
    | error failure =>
      rw [ho] at hfirst
      exact hfirst.bind_error
    | ok done =>
      rw [ho] at hfirst
      have hboth : Yields (List.forM (item :: items) k) _ := hfirst.bind hrest
      intro w
      rw [hboth w]
      cases items.mapM outcome <;> rfl

theorem within {enter : Writer → Writer} {suffix : String} {body : Emission Unit}
    {r : Except Failure Unit} (h : Yields body r) :
    Yields (Emission.within enter suffix body) r := fun w => h (enter w)

/-- A condition whose code is one line, with an alternative. -/
theorem ifElse {condition text : String} {body : Emission Unit} {r : Except Failure Unit}
    (h : Yields body r) :
    Yields (Emission.ifBlock condition (do Emission.line text; Emission.enterElse; body)) r := by
  intro w
  show ((do Emission.line text; Emission.enterElse; body : Emission Unit).run
    (w.enterIf condition)).1 = r
  rw [run_bind]
  show ((Emission.enterElse >>= fun _ => body : Emission Unit).run
    ((w.enterIf condition).line text)).1 = r
  rw [run_bind]
  -- a line leaves the scope of the condition open
  have helse : Emission.enterElse.run ((w.enterIf condition).line text) =
      (.ok (), ((((w.enterIf condition).line text).pop.line "\x7d else \x7b").push "else")) := rfl
  rw [helse]
  exact h _

theorem written_error {e : Emission Unit} {failure : Failure} (h : Yields e (.error failure)) :
    e.written = .error failure := by
  have hnew := h {}
  unfold Emission.written
  rcases hrun : e.run {} with ⟨outcome, v⟩
  rw [hrun] at hnew
  cases hnew
  rfl

/-- An emission with one outcome has that of a new writer. -/
theorem of_written {e : Emission Unit} (h : IsDetermined e) :
    Yields e (e.written.map fun _ => ()) := by
  obtain ⟨r, hr⟩ := h
  have hrun := hr {}
  have hwritten : e.written.map (fun _ => ()) = r := by
    rw [← hrun]
    unfold Emission.written
    rcases e.run {} with ⟨outcome, v⟩
    cases outcome <;> rfl
  rw [hwritten]
  exact hr

end Yields

namespace IsDetermined

theorem demand (r : Except Failure α) : IsDetermined (Emission.demand r) := ⟨r, .demand r⟩

theorem line (text : String) : IsDetermined (Emission.line text) := ⟨.ok (), .line text⟩

theorem pure (a : α) : IsDetermined (Pure.pure a : Emission α) := ⟨.ok a, fun _ => rfl⟩

theorem bind {e : Emission α} {k : α → Emission β} (h : IsDetermined e)
    (hk : ∀ a, IsDetermined (k a)) : IsDetermined (e >>= k) := by
  obtain ⟨r, hr⟩ := h
  cases r with
  | error failure => exact ⟨_, hr.bind_error⟩
  | ok a =>
    obtain ⟨s, hs⟩ := hk a
    exact ⟨s, hr.bind hs⟩

theorem lines (texts : List String) : IsDetermined (Emission.lines texts) :=
  ⟨_, Yields.forM fun text _ => .line text⟩

theorem within {enter : Writer → Writer} {suffix : String} {body : Emission Unit}
    (h : IsDetermined body) : IsDetermined (Emission.within enter suffix body) := by
  obtain ⟨r, hr⟩ := h
  exact ⟨r, hr.within⟩

theorem ifElse {condition text : String} {body : Emission Unit} (h : IsDetermined body) :
    IsDetermined
      (Emission.ifBlock condition (do Emission.line text; Emission.enterElse; body)) := by
  obtain ⟨r, hr⟩ := h
  exact ⟨r, hr.ifElse⟩

end IsDetermined

end Protogen.Code
