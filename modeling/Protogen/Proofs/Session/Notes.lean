import Protogen.Import.File
import Protogen.Proofs.Session

/-!
# The records that sessions keep

A session only adds records, whatever becomes of it.

* `Notes P x`: every record that a session adds is one of a kind.
* `Notes.bind`, `Notes.ite`, `Notes.forM` and `Notes.mapM` put sessions together; `notes_demand`,
  `notes_change` and the like are the steps.
* `Record.edited?` is the file that is appended to or resolved. The resolution of a file tells of no
  other (`Import.notes_resolveFile`).
-/

set_option autoImplicit false

namespace Protogen

/-- The file that is appended to or of which the imports are resolved. -/
def Record.edited? : Record → Option Path
  | .resolving file => some file
  | .appended file => some file
  | _ => none

namespace Session

variable {α β : Type} {P : Record → Prop}

/-- All records that a session adds are of a kind. -/
def Notes (P : Record → Prop) (x : Session α) : Prop :=
  ∀ w r w', x.run w = (r, w') → ∃ more, w'.records = w.records ++ more ∧ ∀ record ∈ more, P record

/-- A session that keeps no records. -/
theorem notes_of_records {x : Session α} (h : ∀ w, (x.run w).2.records = w.records) : Notes P x := by
  intro w r w' hrun
  have hsame : w'.records = w.records := by
    rw [← h w, hrun]
  exact ⟨[], by rw [hsame, List.append_nil], by simp⟩

theorem notes_pure (a : α) : Notes P (pure a : Session α) := notes_of_records fun _ => rfl

theorem notes_demand (result : Except Failure α) : Notes P (demand result) :=
  notes_of_records fun _ => rfl

theorem notes_note {records : List Record} (h : ∀ record ∈ records, P record) :
    Notes P (note records) := by
  intro w r w' hrun
  rw [run_note] at hrun
  cases hrun
  exact ⟨records, rfl, h⟩

namespace Notes

variable {x y : Session α} {k : α → Session β}

theorem imp {Q : Record → Prop} (hx : Notes P x) (h : ∀ record, P record → Q record) :
    Notes Q x := by
  intro w r w' hrun
  obtain ⟨more, hmore, hall⟩ := hx w r w' hrun
  exact ⟨more, hmore, fun record hrecord => h record (hall record hrecord)⟩

theorem bind (hx : Notes P x) (hk : ∀ a, Notes P (k a)) : Notes P (x >>= k) := by
  intro w r w' hrun
  rw [run_bind] at hrun
  rcases hfirst : x.run w with ⟨result, next⟩
  rw [hfirst] at hrun
  obtain ⟨more, hmore, hall⟩ := hx w result next hfirst
  cases result with
  | error failure =>
    cases hrun
    exact ⟨more, hmore, hall⟩
  | ok a =>
    obtain ⟨rest, hrest, hall'⟩ := hk a next r w' hrun
    refine ⟨more ++ rest, by rw [hrest, hmore, List.append_assoc], fun record hrecord => ?_⟩
    exact (List.mem_append.1 hrecord).elim (hall record) (hall' record)

/-- What comes behind a value depends on how it was computed. -/
theorem demand_bind {result : Except Failure α} (hk : ∀ a, result = .ok a → Notes P (k a)) :
    Notes P (demand result >>= k) := by
  intro w r w' hrun
  rw [run_bind, run_demand] at hrun
  cases result with
  | error failure =>
    cases hrun
    exact ⟨[], by simp, by simp⟩
  | ok a => exact hk a rfl w r w' hrun

theorem get_bind {k : Workspace → Session β} (hk : ∀ w, Notes P (k w)) : Notes P (get >>= k) :=
  fun w r w' hrun => hk w w r w' hrun

theorem ite {condition : Prop} [Decidable condition] (hx : Notes P x) (hy : Notes P y) :
    Notes P (if condition then x else y) := by
  split
  · exact hx
  · exact hy

theorem forM {f : α → Session Unit} {items : List α} (hf : ∀ a ∈ items, Notes P (f a)) :
    Notes P (items.forM f) := by
  induction items with
  | nil => exact notes_pure ()
  | cons a items ih =>
    rw [List.forM_eq_forM, List.forM_cons]
    rw [List.forM_eq_forM] at ih
    exact (hf a (List.mem_cons_self ..)).bind fun _ => ih fun b hb => hf b (List.mem_cons_of_mem _ hb)

theorem mapM {f : α → Session β} {items : List α} (hf : ∀ a ∈ items, Notes P (f a)) :
    Notes P (items.mapM f) := by
  induction items with
  | nil => exact notes_pure []
  | cons a items ih =>
    rw [List.mapM_cons]
    refine (hf a (List.mem_cons_self ..)).bind fun b => ?_
    exact (ih fun c hc => hf c (List.mem_cons_of_mem _ hc)).bind fun rest => notes_pure _

end Notes

theorem notes_change (f : FileTree → Except FileFault FileTree) : Notes P (change f) :=
  .get_bind fun _ => (notes_demand _).bind fun _ => notes_of_records fun _ => rfl

theorem notes_makeDirectories (p : Path) : Notes P (makeDirectories p) :=
  notes_of_records fun _ => rfl

theorem notes_isPresent (p : Path) : Notes P (isPresent p) := by
  refine .get_bind fun w => ?_
  dsimp only
  split
  · exact notes_of_records fun _ => rfl
  · exact notes_pure _

theorem notes_readText (p : Path) : Notes P (readText p) :=
  .get_bind fun _ => notes_demand _

end Session

/-! ## The resolution of a file -/

namespace Import

open Session

variable {r : Resolver} {record : Record} {path : Path}

theorem Resolver.edited?_of_mem_trail {s : Statement} (h : record ∈ r.trail s) :
    record.edited? = none := by
  rcases List.mem_append.1 h with hlook | hreplace
  · obtain ⟨t, -, rfl⟩ := List.mem_map.1 hlook
    rfl
  · split at hreplace
    · unfold replacement at hreplace
      split at hreplace
      · cases hreplace
      · rw [List.mem_singleton.1 hreplace]
        rfl
    · cases hreplace

-- stated apart, since the equations that Lean derives for `linesTrail` take long
theorem Resolver.linesTrail_cons (directory : Path) (line : Text.Line) (lines : List Text.Line) :
    r.linesTrail directory (line :: lines) =
      match statementIn directory line with
      | .error _ => []
      | .ok none => r.linesTrail directory lines
      | .ok (some s) =>
        r.trail s ++ match r.checked s with
          | .ok _ => r.linesTrail directory lines
          | .error _ => [] :=
  (rfl)

theorem Resolver.edited?_of_mem_linesTrail {directory : Path} {lines : List Text.Line}
    (h : record ∈ r.linesTrail directory lines) : record.edited? = none := by
  induction lines with
  | nil => cases h
  | cons line lines ih =>
    rw [linesTrail_cons] at h
    split at h
    · cases h
    · exact ih h
    · rcases List.mem_append.1 h with htrail | hrest
      · exact edited?_of_mem_trail htrail
      · split at hrest
        · exact ih hrest
        · cases hrest

theorem Resolver.edited?_of_mem_textTrail {directory : Path} {text : String}
    (h : record ∈ r.textTrail directory text) : record.edited? = none := by
  rw [textTrail] at h
  exact edited?_of_mem_linesTrail h

/-- The resolution of a file tells of no other file that is appended to or resolved. -/
theorem notes_resolveFile (root : Path) (modules : List Module) (path : Path) :
    Notes (fun record => ∀ p, record.edited? = some p → p = path)
      (resolveFile root modules path) := by
  unfold resolveFile
  refine (notes_note ?_).bind fun _ => (notes_readText path).bind fun text => ?_
  · intro record hrecord p hp
    rw [List.mem_singleton.1 hrecord] at hp
    exact (Option.some.inj hp).symm
  · refine .get_bind fun w => (notes_note ?_).bind fun _ => (notes_demand _).bind fun resolved => ?_
    · intro record hrecord p hp
      rw [Resolver.edited?_of_mem_textTrail hrecord] at hp
      cases hp
    · exact .ite (notes_pure _) ((notes_change _).bind fun _ => notes_pure _)

end Import

end Protogen
