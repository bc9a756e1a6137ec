import Protogen.Command.Run
import Protogen.Proofs.FileTree

/-!
# Checks of a command line

Before a command does anything it checks its arguments and reads the configuration of the modules.
Both only look.

* `Action.IsPassive` actions leave the workspace as it is and print nothing. They can be put
  together and taken apart (`Action.IsPassive.bind`, `Action.IsPassive.of_run_bind`).
* `isPassive_check` and `isPassive_configuredModules`: the checks and the configuration are passive.
* `stored_of_check`: the files of a command line that passes the checks are there.
-/

set_option autoImplicit false

namespace Protogen.Command

open Import

variable {α β : Type} {a : Arguments} {c : Console}

theorem run_session (onFailure : Failure → Abort) (s : Session α) (c : Console) :
    (Action.session onFailure s).run c =
      ((s.run c.workspace).1.mapError onFailure,
        { c with workspace := (s.run c.workspace).2 }) := rfl

/-! ## Actions that only look -/

/-- An action that leaves the workspace as it is and prints nothing. -/
def Action.IsPassive (x : Action α) : Prop := ∀ c, (x.run c).2 = c

namespace Action.IsPassive

theorem pure (value : α) : IsPassive (Pure.pure value : Action α) := fun _ => rfl

theorem complain (complaint : Complaint) : IsPassive (Action.complain complaint : Action α) :=
  fun _ => rfl

theorem demand (onFailure : Failure → Abort) (result : Except Failure α) :
    IsPassive (Action.demand onFailure result) := fun _ => rfl

theorem bind {x : Action α} {k : α → Action β} (hx : IsPassive x)
    (hk : ∀ value, IsPassive (k value)) : IsPassive (x >>= k) := by
  intro c
  have hfirst := hx c
  rw [Protogen.run_bind]
  rcases hrun : x.run c with ⟨result, next⟩
  rw [hrun] at hfirst
  obtain rfl : next = c := hfirst
  cases result with
  | error abort => rfl
  | ok value => exact hk value next

theorem get_bind {k : Console → Action β} (hk : ∀ c, IsPassive (k c)) : IsPassive (get >>= k) :=
  fun c => hk c c

theorem forM {f : α → Action Unit} (hf : ∀ value, IsPassive (f value)) (items : List α) :
    IsPassive (items.forM f) := by
  induction items with
  | nil => exact pure ()
  | cons item items ih =>
    rw [List.forM_eq_forM, List.forM_cons]
    exact (hf item).bind fun _ => ih

theorem mapM {f : α → Action β} (hf : ∀ value, IsPassive (f value)) (items : List α) :
    IsPassive (items.mapM f) := by
  induction items with
  | nil => exact pure []
  | cons item items ih =>
    rw [List.mapM_cons]
    exact (hf item).bind fun _ => ih.bind fun _ => pure _

/-- Behind a passive action that goes well, an action goes on with the same console. -/
theorem run_bind {x : Action α} {k : α → Action β} (hx : IsPassive x) {value : α}
    (h : (x.run c).1 = .ok value) : (x >>= k).run c = (k value).run c :=
  run_bind_of_ok (Prod.ext h (hx c))

/-- An action that begins with a passive one went well if that did. -/
theorem of_run_bind {x : Action α} {k : α → Action β} (hx : IsPassive x) {value : β}
    (h : ((x >>= k).run c).1 = .ok value) :
    ∃ first, (x.run c).1 = .ok first ∧ ((k first).run c).1 = .ok value := by
  have hfirst := hx c
  rw [Protogen.run_bind] at h
  rcases hrun : x.run c with ⟨result, next⟩
  rw [hrun] at h hfirst
  obtain rfl : next = c := hfirst
  cases result with
  | error abort => cases h
  | ok first => exact ⟨first, rfl, h⟩

/-- Passive actions on a list went well if each of them did. -/
theorem of_run_forM {f : α → Action Unit} (hf : ∀ value, IsPassive (f value)) {items : List α}
    (h : ((items.forM f).run c).1 = .ok ()) : ∀ item ∈ items, ((f item).run c).1 = .ok () := by
  induction items with
  | nil => simp
  | cons item items ih =>
    rw [List.forM_eq_forM, List.forM_cons] at h
    obtain ⟨_, hitem, hrest⟩ := (hf item).of_run_bind h
    exact List.forall_mem_cons.2 ⟨hitem, ih hrest⟩

end Action.IsPassive

theorem isPassive_checkFile (verb : Verb) (hint text : String) :
    Action.IsPassive (checkFile verb hint text) := by
  refine .get_bind fun c => ?_
  dsimp only
  split
  · exact .complain _
  · exact .complain _
  · exact .pure _

theorem isPassive_checkGiven (verb : Verb) (a : Arguments) (o : Opt) :
    Action.IsPassive (checkGiven verb a o) := by
  unfold checkGiven
  split
  · exact isPassive_checkFile _ _ _
  · exact isPassive_checkFile _ _ _
  · exact .pure _

theorem isPassive_checkFiles (verb : Verb) (a : Arguments) :
    Action.IsPassive (checkFiles verb a) := by
  unfold checkFiles
  split
  · split
    · exact .complain _
    · exact .forM (isPassive_checkFile _ _) _
  · exact .pure _

theorem isPassive_checkMissing (verb : Verb) (o : Opt) :
    Action.IsPassive (checkMissing verb o) := by
  unfold checkMissing
  split
  · exact .complain _
  · exact .pure _

theorem isPassive_checkExtra (verb : Verb) (a : Arguments) :
    Action.IsPassive (checkExtra verb a) := by
  unfold checkExtra
  split
  · exact .pure _
  · exact .complain _

theorem isPassive_check (verb : Verb) (a : Arguments) : Action.IsPassive (check verb a) := by
  have hchecks : Action.IsPassive (do
      (a.checkOrder verb.options).1.forM (checkGiven verb a)
      checkFiles verb a
      (a.checkOrder verb.options).2.forM (checkMissing verb)
      checkExtra verb a) :=
    .bind (.forM (isPassive_checkGiven verb a) _) fun _ =>
      .bind (isPassive_checkFiles verb a) fun _ =>
        .bind (.forM (isPassive_checkMissing verb) _) fun _ => isPassive_checkExtra verb a
  unfold check
  dsimp only
  split
  · exact .bind (.complain _) fun _ => hchecks
  · exact hchecks

theorem isPassive_readConfigFile (file : Option String) :
    Action.IsPassive (readConfigFile file) := by
  cases file with
  | none => exact .pure _
  | some file =>
    refine .bind (fun c => ?_) fun _ => .demand _ _
    have hload : ((loadConfig file).run c.workspace).2 = c.workspace := by
      have hread : (Session.readText (Path.read file)).run c.workspace =
          (failing .file (c.workspace.files.readText (Path.read file)), c.workspace) := rfl
      rw [loadConfig, Protogen.run_bind, hread]
      cases failing Failure.file (c.workspace.files.readText (Path.read file)) <;> rfl
    show { c with workspace := ((loadConfig file).run c.workspace).2 } = c
    rw [hload]

theorem isPassive_configuredModules (verb : Verb) (a : Arguments) :
    Action.IsPassive (configuredModules verb a) := by
  unfold configuredModules
  refine .bind (.mapM (fun spec => ?_) _) fun specs =>
    .bind (isPassive_readConfigFile _) fun config => .demand _ _
  split
  · exact .pure _
  · exact .complain _

/-! ## What the checks tell about the files -/

/-- A file that passes the check is stored. -/
theorem stored_of_nodeAtText? {files : FileTree} {text content : String}
    (h : nodeAtText? files text = some (.file content)) :
    files.stored (Path.read text) = .ok content := by
  unfold nodeAtText? at h
  split at h
  · cases h
  · have hnode : files.nodeAt? (Path.read text) = some (.file content) := by
      split at h
      · rename_i found hfound
        split at h
        · cases h
          exact hfound
        · cases h
      · exact h
    unfold FileTree.nodeAt? at hnode
    cases hlocate : files.locate (Path.read text) with
    | error fault =>
      rw [hlocate] at hnode
      cases hnode
    | ok l =>
      rw [hlocate] at hnode
      exact FileTree.stored_eq_ok.2 ⟨l, hlocate, hnode⟩

theorem stored_of_checkFile {verb : Verb} {hint text : String}
    (h : ((checkFile verb hint text).run c).1 = .ok ()) :
    ∃ content, c.workspace.files.stored (Path.read text) = .ok content := by
  have hrun : (checkFile verb hint text).run c = _ := run_bind_of_ok (a := c) rfl
  rw [hrun] at h
  split at h
  · cases h
  · cases h
  · rename_i content hnode
    exact ⟨content, stored_of_nodeAtText? hnode⟩

/-- The files of a command line that passes the checks are there. -/
theorem stored_of_check (h : ((check .resolve a).run c).1 = .ok ()) :
    ∀ file ∈ a.rest, ∃ content, c.workspace.files.stored (Path.read file) = .ok content := by
  unfold check at h
  dsimp only at h
  split at h
  · cases h
  · obtain ⟨_, -, h⟩ :=
      (Action.IsPassive.forM (isPassive_checkGiven .resolve a) _).of_run_bind h
    obtain ⟨_, h, -⟩ := (isPassive_checkFiles .resolve a).of_run_bind h
    rw [checkFiles, if_pos rfl] at h
    split at h
    · cases h
    · intro file hfile
      exact stored_of_checkFile
        (Action.IsPassive.of_run_forM (isPassive_checkFile _ _) h file hfile)

end Protogen.Command
