import Protogen.Proofs.Failure
import Protogen.Session

/-!
# Runs of sessions

* `run_bind_eq_ok` takes a session that goes well apart into its steps.
* `run_demand_ok` and `run_demand_error` are the steps that do not look at the workspace: one that
  fails leaves it as it is.
* `files_of_run_change`, `files_of_run_makeDirectories` and their converses `run_change` and
  `run_makeDirectories` are the steps that change the file tree; `run_isPresent` and
  `of_run_readText` those that look at it.
* `of_run_mapM` follows a list of sessions by what each of them preserves.
-/

set_option autoImplicit false

namespace Protogen.Session

variable {α β : Type} {x : Session α} {k : α → Session β} {w w' : Workspace}

/-- A session goes well if both of its steps do, the second on what the first leaves. -/
theorem run_bind_eq_ok {b : β} :
    (x >>= k).run w = (.ok b, w') ↔
      ∃ a v, x.run w = (.ok a, v) ∧ (k a).run v = (.ok b, w') := by
  rw [run_bind]
  rcases hrun : x.run w with ⟨r, v⟩
  cases r with
  | error failure =>
    constructor
    · intro h
      cases h
    · rintro ⟨a, v', h, -⟩
      cases h
  | ok a =>
    constructor
    · intro h
      exact ⟨a, v, rfl, h⟩
    · rintro ⟨a', v', h, hk⟩
      cases h
      exact hk

@[simp] theorem run_demand (r : Except Failure α) (w : Workspace) : (demand r).run w = (r, w) := rfl

theorem run_demand_eq_ok {r : Except Failure α} {a : α} :
    (demand r).run w = (.ok a, w') ↔ r = .ok a ∧ w = w' := by
  rw [run_demand, Prod.mk.injEq]

@[simp] theorem run_note (records : List Record) (w : Workspace) :
    (note records).run w = (.ok (), { w with records := w.records ++ records }) := rfl

theorem run_note_eq_ok {records : List Record} {u : Unit} :
    (note records).run w = (.ok u, w') ↔ w' = { w with records := w.records ++ records } := by
  rw [run_note, Prod.mk.injEq, eq_comm (b := w')]
  simp

/-- Where a value is wanted that cannot be computed, a session ends with the workspace as it is. -/
theorem run_demand_error (failure : Failure) (w : Workspace) :
    (demand (.error failure) >>= k).run w = (.error failure, w) := by
  rw [run_bind, run_demand]

theorem run_demand_ok (a : α) (w : Workspace) : (demand (.ok a) >>= k).run w = (k a).run w := by
  rw [run_bind, run_demand]

theorem files_of_run_change {f : FileTree → Except FileFault FileTree}
    (h : (change f).run w = (.ok (), w')) : f w.files = .ok w'.files := by
  change (demand (failing .file (f w.files)) >>= fun files =>
    (modify fun v : Workspace => { v with files := files } : Session Unit)).run w = _ at h
  obtain ⟨files, v, hfiles, hmodify⟩ := run_bind_eq_ok.1 h
  rw [run_demand] at hfiles
  obtain ⟨hresult, rfl⟩ := Prod.mk.inj hfiles
  cases hmodify
  exact failing_eq_ok.1 hresult

theorem files_of_run_makeDirectories {p : Path}
    (h : (makeDirectories p).run w = (.ok (), w')) :
    w.files.makeDirectories p = (.ok (), w'.files) := by
  change ((failing Failure.file (w.files.makeDirectories p).1 : Except Failure Unit),
    ({ w with files := (w.files.makeDirectories p).2 } : Workspace)) = _ at h
  obtain ⟨hresult, rfl⟩ := Prod.mk.inj h
  rw [failing_eq_ok] at hresult
  exact Prod.ext hresult rfl

theorem run_change {f : FileTree → Except FileFault FileTree} {files : FileTree}
    (h : f w.files = .ok files) : (change f).run w = (.ok (), { w with files := files }) := by
  refine run_bind_eq_ok.2 ⟨w, w, rfl, run_bind_eq_ok.2 ⟨files, w, ?_, rfl⟩⟩
  exact run_demand_eq_ok.2 ⟨failing_eq_ok.2 h, rfl⟩

theorem run_makeDirectories {p : Path} {files : FileTree}
    (h : w.files.makeDirectories p = (.ok (), files)) :
    (makeDirectories p).run w = (.ok (), { w with files := files }) := by
  show ((failing Failure.file (w.files.makeDirectories p).1 : Except Failure Unit),
    ({ w with files := (w.files.makeDirectories p).2 } : Workspace)) = _
  rw [h]
  rfl

theorem run_isPresent {p : Path} (h : w.files.lookFault? p = none) :
    (isPresent p).run w = (.ok (w.files.isPresent p), w) := by
  have hget : (get : Session Workspace).run w = (.ok w, w) := rfl
  unfold isPresent
  rw [run_bind, hget]
  simp only [h]
  rfl

theorem run_isPresent_error {p : Path} {fault : FileFault}
    (h : w.files.lookFault? p = some fault) :
    (isPresent p).run w = (.error (.file fault), w) := by
  have hget : (get : Session Workspace).run w = (.ok w, w) := rfl
  unfold isPresent
  rw [run_bind, hget]
  simp only [h]
  rfl

theorem of_run_isPresent {p : Path} {found : Bool}
    (h : (isPresent p).run w = (.ok found, w')) : w = w' ∧ found = w.files.isPresent p := by
  cases hfault : w.files.lookFault? p with
  | none =>
    rw [run_isPresent hfault] at h
    cases h
    exact ⟨rfl, rfl⟩
  | some fault =>
    rw [run_isPresent_error hfault] at h
    cases h

theorem run_readText {p : Path} {text : String} (h : w.files.readText p = .ok text) :
    (readText p).run w = (.ok text, w) := by
  show (failing Failure.file (w.files.readText p), w) = _
  rw [h]
  rfl

theorem of_run_readText {p : Path} {text : String}
    (h : (readText p).run w = (.ok text, w')) : w = w' ∧ w.files.readText p = .ok text := by
  change (failing Failure.file (w.files.readText p), w) = _ at h
  obtain ⟨hresult, rfl⟩ := Prod.mk.inj h
  exact ⟨rfl, failing_eq_ok.1 hresult⟩

/-- What each of several sessions preserves, all of them do. -/
theorem of_run_mapM {R : Workspace → Workspace → Prop} (refl : ∀ w, R w w)
    (trans : ∀ {u v w}, R u v → R v w → R u w) {f : α → Session β}
    (step : ∀ a b v v', (f a).run v = (.ok b, v') → R v v') {items : List α} {results : List β}
    (h : (items.mapM f).run w = (.ok results, w')) : R w w' := by
  induction items generalizing w results with
  | nil =>
    cases h
    exact refl _
  | cons a items ih =>
    rw [List.mapM_cons] at h
    obtain ⟨b, v, hfirst, h⟩ := run_bind_eq_ok.1 h
    obtain ⟨rest, v', hrest, h⟩ := run_bind_eq_ok.1 h
    cases h
    exact trans (step a b w v hfirst) (ih hrest)

end Protogen.Session
