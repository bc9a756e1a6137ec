import Mathlib.Data.List.Forall2
import Protogen.Failure

/-!
# Computations that may fail

Where a computation goes well, each of its steps does; where it fails, one of its steps does.
-/

set_option autoImplicit false

namespace Protogen

variable {ε α β γ : Type}

/-- A computation fails or has a result. -/
theorem exists_error_iff {r : Except ε α} :
    (∃ cause, r = .error cause) ↔ ¬∃ a, r = .ok a := by
  cases r <;> simp

/-- What has a result under a condition, and fails otherwise. -/
theorem ite_eq_ok {c : Prop} [Decidable c] {cause : ε} {a b : α} :
    (if c then .ok a else .error cause : Except ε α) = .ok b ↔ c ∧ b = a := by
  by_cases h : c
  · rw [if_pos h, Except.ok.injEq, eq_comm, and_iff_right h]
  · simp [h]

theorem bind_eq_ok {r : Except ε α} {k : α → Except ε β} {b : β} :
    (r >>= k) = .ok b ↔ ∃ a, r = .ok a ∧ k a = .ok b := by
  cases r with
  | error cause =>
    constructor
    · intro h
      cases h
    · rintro ⟨a, ha, -⟩
      cases ha
  | ok a =>
    constructor
    · intro h
      exact ⟨a, rfl, h⟩
    · rintro ⟨a', ha, h⟩
      cases ha
      exact h

theorem map_eq_ok {r : Except ε α} {g : α → β} {b : β} :
    r.map g = .ok b ↔ ∃ a, r = .ok a ∧ g a = b := by
  cases r <;> simp [Except.map]

theorem map_eq_error {r : Except ε α} {g : α → β} {cause : ε} :
    r.map g = .error cause ↔ r = .error cause := by
  cases r <;> simp [Except.map]

/-- A computation has a result if what it works on has one. -/
theorem exists_bind_pure_iff {r : Except ε α} {g : α → β} :
    (∃ b, (r >>= fun a => pure (g a)) = .ok b) ↔ ∃ a, r = .ok a := by
  constructor
  · rintro ⟨b, h⟩
    obtain ⟨a, ha, -⟩ := bind_eq_ok.1 h
    exact ⟨a, ha⟩
  · rintro ⟨a, ha⟩
    exact ⟨g a, bind_eq_ok.2 ⟨a, ha, rfl⟩⟩

theorem mapError_eq_ok {r : Except ε α} {g : ε → γ} {a : α} :
    r.mapError g = .ok a ↔ r = .ok a := by
  cases r <;> simp [Except.mapError]

theorem mapError_eq_error {r : Except ε α} {g : ε → γ} {cause : γ} :
    r.mapError g = .error cause ↔ ∃ e, r = .error e ∧ g e = cause := by
  cases r <;> simp [Except.mapError]

theorem bind_eq_error {r : Except ε α} {k : α → Except ε β} {cause : ε} :
    (r >>= k) = .error cause ↔ r = .error cause ∨ ∃ a, r = .ok a ∧ k a = .error cause := by
  cases r with
  | error cause' =>
    constructor
    · intro h
      cases h
      exact .inl rfl
    · rintro (h | ⟨a, ha, -⟩)
      · cases h
        rfl
      · cases ha
  | ok a =>
    constructor
    · intro h
      exact .inr ⟨a, rfl, h⟩
    · rintro (h | ⟨a', ha, h⟩)
      · cases h
      · cases ha
        exact h

/-- A step of a computation that changes a state and may fail. -/
theorem run_bind {σ : Type} (x : ExceptT ε (StateM σ) α) (k : α → ExceptT ε (StateM σ) β)
    (state : σ) :
    (x >>= k).run state = match x.run state with
      | (.ok a, next) => (k a).run next
      | (.error cause, next) => (.error cause, next) := by
  show StateT.bind x (ExceptT.bindCont k) state = _
  simp only [StateT.bind]
  show (match x.run state with | (r, next) => (ExceptT.bindCont k r) next) = _
  rcases x.run state with ⟨r, next⟩
  cases r <;> rfl

section

variable {σ : Type} {x : ExceptT ε (StateM σ) α} {k : α → ExceptT ε (StateM σ) β} {state next : σ}

/-- Behind a step that goes well, a computation goes on with what the step leaves. -/
theorem run_bind_of_ok {a : α} (h : x.run state = (.ok a, next)) :
    (x >>= k).run state = (k a).run next := by
  rw [run_bind, h]

/-- A step that fails ends a computation. -/
theorem run_bind_of_error {cause : ε} (h : x.run state = (.error cause, next)) :
    (x >>= k).run state = (.error cause, next) := by
  rw [run_bind, h]

end

@[simp] theorem failing_eq_ok {cause : ε → Failure} {r : Except ε α} {a : α} :
    failing cause r = .ok a ↔ r = .ok a :=
  mapError_eq_ok

theorem failing_map {cause : ε → Failure} {r : Except ε α} (g : α → β) :
    failing cause (r.map g) = (failing cause r).map g := by
  cases r <;> rfl

theorem failing_eq_error {cause : ε → Failure} {r : Except ε α} {failure : Failure} :
    failing cause r = .error failure ↔ ∃ e, r = .error e ∧ cause e = failure :=
  mapError_eq_error

/-! ## Lists -/

/-- The results of a list are those of its items, in order. -/
theorem mapM_eq_ok_iff {f : α → Except ε β} {items : List α} {results : List β} :
    items.mapM f = .ok results ↔ List.Forall₂ (fun a b => f a = .ok b) items results := by
  induction items generalizing results with
  | nil =>
    constructor
    · intro h
      cases h
      exact .nil
    · intro h
      cases h
      rfl
  | cons a items ih =>
    rw [List.mapM_cons]
    constructor
    · intro h
      obtain ⟨first, hfirst, h⟩ := bind_eq_ok.1 h
      obtain ⟨rest, hrest, h⟩ := bind_eq_ok.1 h
      cases h
      exact .cons hfirst (ih.1 hrest)
    · intro h
      cases h with
      | cons hfirst hrest => exact bind_eq_ok.2 ⟨_, hfirst, bind_eq_ok.2 ⟨_, ih.2 hrest, rfl⟩⟩

/-- The results of a list are the results of its items. -/
theorem mem_mapM_iff {f : α → Except ε β} {items : List α} {results : List β}
    (h : items.mapM f = .ok results) (b : β) : b ∈ results ↔ ∃ a ∈ items, f a = .ok b := by
  have hall := mapM_eq_ok_iff.1 h
  constructor
  · intro hb
    obtain ⟨i, hi, rfl⟩ := List.getElem_of_mem hb
    have hi' : i < items.length := hall.length_eq ▸ hi
    exact ⟨items[i], List.getElem_mem hi', hall.get hi' hi⟩
  · rintro ⟨a, ha, hok⟩
    obtain ⟨i, hi, rfl⟩ := List.getElem_of_mem ha
    have hi' : i < results.length := hall.length_eq ▸ hi
    have hresult : f items[i] = .ok results[i] := hall.get hi hi'
    rw [hresult] at hok
    cases hok
    exact List.getElem_mem hi'

/-- A list has results if each of its items has one. -/
theorem exists_mapM_iff {f : α → Except ε β} {items : List α} :
    (∃ results, items.mapM f = .ok results) ↔ ∀ a ∈ items, ∃ b, f a = .ok b := by
  constructor
  · rintro ⟨results, h⟩ a ha
    have hall := mapM_eq_ok_iff.1 h
    obtain ⟨i, hi, rfl⟩ := List.getElem_of_mem ha
    have hi' : i < results.length := hall.length_eq ▸ hi
    exact ⟨results[i], hall.get hi hi'⟩
  · intro h
    induction items with
    | nil => exact ⟨[], rfl⟩
    | cons a items ih =>
      obtain ⟨first, hfirst⟩ := h a (List.mem_cons_self ..)
      obtain ⟨rest, hrest⟩ := ih fun b hb => h b (List.mem_cons_of_mem _ hb)
      exact ⟨first :: rest, mapM_eq_ok_iff.2 (.cons hfirst (mapM_eq_ok_iff.1 hrest))⟩

/-- Where a list has no results, one of its items has none, for the same cause. -/
theorem exists_of_mapM_eq_error {f : α → Except ε β} {items : List α} {cause : ε}
    (h : items.mapM f = .error cause) : ∃ a ∈ items, f a = .error cause := by
  induction items with
  | nil => cases h
  | cons a items ih =>
    rw [List.mapM_cons] at h
    rcases bind_eq_error.1 h with hfirst | ⟨first, -, h⟩
    · exact ⟨a, List.mem_cons_self .., hfirst⟩
    · rcases bind_eq_error.1 h with hrest | ⟨rest, -, h⟩
      · obtain ⟨b, hb, herror⟩ := ih hrest
        exact ⟨b, List.mem_cons_of_mem _ hb, herror⟩
      · cases h

/-- A list fails as its first item that fails. -/
theorem mapM_eq_error_iff {f : α → Except ε β} {items : List α} {cause : ε} :
    items.mapM f = .error cause ↔
      ∃ before a after, items = before ++ a :: after ∧ (∀ b ∈ before, ∃ result, f b = .ok result) ∧
        f a = .error cause := by
  constructor
  · intro h
    induction items with
    | nil => cases h
    | cons first items ih =>
      rw [List.mapM_cons] at h
      rcases bind_eq_error.1 h with hfirst | ⟨result, hfirst, h⟩
      · exact ⟨[], first, items, rfl, by simp, hfirst⟩
      · have hitems : items.mapM f = .error cause := by
          rcases bind_eq_error.1 h with hrest | ⟨_, -, h⟩
          · exact hrest
          · cases h
        obtain ⟨before, a, after, rfl, hbefore, ha⟩ := ih hitems
        exact ⟨first :: before, a, after, rfl, List.forall_mem_cons.2 ⟨⟨result, hfirst⟩, hbefore⟩, ha⟩
  · rintro ⟨before, a, after, rfl, hbefore, ha⟩
    obtain ⟨results, hresults⟩ := exists_mapM_iff.2 hbefore
    rw [List.mapM_append, hresults, List.mapM_cons, ha]
    rfl

/-- A list has no results for a cause of a kind if one of its items has none for such a cause, and
none of those before it has none for another one. -/
theorem mapM_fails_iff {f : α → Except ε β} {kind : ε → Prop} {items : List α} :
    (∃ cause, items.mapM f = .error cause ∧ kind cause) ↔
      ∃ before a after, items = before ++ a :: after ∧ (∃ cause, f a = .error cause ∧ kind cause) ∧
        ∀ b ∈ before, ∀ cause, f b = .error cause → kind cause := by
  induction items with
  | nil =>
    constructor
    · rintro ⟨cause, h, -⟩
      cases h
    · rintro ⟨before, a, after, h, -⟩
      simp at h
  | cons first items ih =>
    rw [List.mapM_cons]
    constructor
    · rintro ⟨cause, h, hkind⟩
      rcases bind_eq_error.1 h with hfirst | ⟨b, hfirst, h⟩
      · exact ⟨[], first, items, rfl, ⟨cause, hfirst, hkind⟩, by simp⟩
      · have hitems : items.mapM f = .error cause := by
          rcases bind_eq_error.1 h with hrest | ⟨_, -, h⟩
          · exact hrest
          · cases h
        obtain ⟨before, a, after, rfl, ha, hbefore⟩ := ih.1 ⟨cause, hitems, hkind⟩
        refine ⟨first :: before, a, after, rfl, ha, ?_⟩
        rw [List.forall_mem_cons]
        refine ⟨fun cause' herror => ?_, hbefore⟩
        cases hfirst.symm.trans herror
    · rintro ⟨before, a, after, hsplit, ha, hbefore⟩
      cases hfirst : f first with
      | error cause =>
        refine ⟨cause, rfl, ?_⟩
        cases before with
        | nil =>
          obtain ⟨rfl, -⟩ := List.cons_eq_cons.1 hsplit
          obtain ⟨cause', ha, hkind⟩ := ha
          cases hfirst.symm.trans ha
          exact hkind
        | cons b before =>
          obtain ⟨rfl, -⟩ := List.cons_eq_cons.1 hsplit
          exact hbefore _ (List.mem_cons_self ..) cause hfirst
      | ok b =>
        cases before with
        | nil =>
          obtain ⟨rfl, -⟩ := List.cons_eq_cons.1 hsplit
          obtain ⟨cause, ha, -⟩ := ha
          cases hfirst.symm.trans ha
        | cons b' before =>
          obtain ⟨rfl, hitems⟩ := List.cons_eq_cons.1 hsplit
          obtain ⟨cause, hcause, hkind⟩ := ih.2 ⟨before, a, after, hitems, ha, fun b hb =>
            hbefore b (List.mem_cons_of_mem _ hb)⟩
          exact ⟨cause, bind_eq_error.2 (.inr ⟨b, rfl, bind_eq_error.2 (.inl hcause)⟩), hkind⟩

/-- A fold that does nothing but place the results of its items has these results, or fails as they
do. -/
theorem foldlM_eq_mapM {step : γ → α → Except ε γ} {f : α → Except ε β} {place : γ → β → γ}
    (h : ∀ c a, step c a = (f a).map (place c)) (items : List α) (c : γ) :
    items.foldlM step c = (items.mapM f).map fun results => results.foldl place c := by
  induction items generalizing c with
  | nil => rfl
  | cons a items ih =>
    rw [List.foldlM_cons, List.mapM_cons, h]
    cases f a with
    | error cause => rfl
    | ok b =>
      show items.foldlM step (place c b) = _
      rw [ih]
      cases items.mapM f <;> rfl

end Protogen
