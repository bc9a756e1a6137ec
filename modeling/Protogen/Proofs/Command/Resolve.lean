import Protogen.Proofs.Command.Check
import Protogen.Proofs.Import.Each

/-!
# Resolution of the files of a command line

The command resolves the files one after the other and tells of each whether it changed. The first
file that cannot be resolved ends it, with everything as it was left by the files before.

* `alone` is what the resolution of a file of the command line ends with if it is the only one.
* `Resolves` relates the consoles before and after some of the files were resolved;
  `Resolves.step` and `Resolves.stop` are one more file, `Resolves.run` is a list of them.
* `EndsWith` tells how the command ends with a file that cannot be resolved.
* `perform_resolve` follows the whole command and tells what becomes of each of its files.
-/

set_option autoImplicit false

namespace Protogen.Command

open Import

variable {a : Arguments} {modules : List Import.Module} {c c' : Console} {file : String}
  {done files : List String}

/-! ## One file -/

/-- The generation root that the options give. -/
def generationRoot (a : Arguments) : Path := Path.read ((a.value? .generatedRoot).getD "")

/-- What the resolution of a file of the command line answers, and the files it leaves, if no other
one is resolved. -/
def alone (a : Arguments) (modules : List Import.Module) (c : Console) (file : String) :
    Except Failure Bool × FileTree :=
  resolveAlone (generationRoot a) modules c.workspace (Path.read file)

/-- What is printed about a file. -/
def notice (file : String) : Except Failure Bool → String
  | .ok changed => Text.plain ((if changed then "Resolved: " else "Unchanged: ") ++ file ++ "\n")
  | .error _ => ""

/-- What the command does with one file. -/
def resolveOne (a : Arguments) (modules : List Import.Module) (file : String) : Action Unit := do
  let changed ← Action.session (badImport file)
    (resolveFile (generationRoot a) modules (Path.read file))
  Action.say ((if changed then "Resolved: " else "Unchanged: ") ++ file ++ "\n")

/-- Some of the files were resolved, each as if it were alone, and it was told of each whether it
changed. -/
structure Resolves (a : Arguments) (modules : List Import.Module) (c : Console)
    (done : List String) (c' : Console) : Prop where
  leaves : Leaves (generationRoot a) modules c.workspace (done.map Path.read) c'.workspace.files
  printed : c'.printed =
    c.printed ++ String.join (done.map fun file => notice file (alone a modules c file).1)

/-- How the command ends with a file that cannot be resolved: a malformed import is reported under
the name of the file, and that the path of an imported file is too long is not reported. -/
inductive EndsWith (file : String) : Failure → Abort → Prop
  | reported (cause : MalformedImport) : EndsWith file (.malformedImport cause)
    (.complaint (.reported (file ++ ": " ++ cause.message)))
  | escaped : EndsWith file (.file .nameTooLong) (.escaped (.file .nameTooLong))

namespace Resolves

theorem nil (a : Arguments) (modules : List Import.Module) (c : Console) :
    Resolves a modules c [] c :=
  ⟨.nil .., by simp⟩

theorem leaves_step (h : Resolves a modules c done c')
    (hfiles : AreFiles c.workspace.files ((done ++ [file]).map Path.read)) :
    ∃ next, (resolveFile (generationRoot a) modules (Path.read file)).run c'.workspace =
        ((alone a modules c file).1, next) ∧
      Leaves (generationRoot a) modules c.workspace ((done ++ [file]).map Path.read)
        next.files := by
  rw [List.map_append, List.map_singleton] at hfiles ⊢
  exact h.leaves.step hfiles

/-- One more file is resolved. -/
theorem step (h : Resolves a modules c done c')
    (hfiles : AreFiles c.workspace.files ((done ++ [file]).map Path.read)) {changed : Bool}
    (hanswer : (alone a modules c file).1 = .ok changed) :
    ∃ next, (resolveOne a modules file).run c' = (.ok (), next) ∧
      Resolves a modules c (done ++ [file]) next := by
  obtain ⟨next, hrun, hleaves⟩ := h.leaves_step hfiles
  rw [hanswer] at hrun
  have hsession : (Action.session (badImport file)
      (resolveFile (generationRoot a) modules (Path.read file))).run c' =
        (.ok changed, { c' with workspace := next }) := by
    rw [run_session, hrun]
    rfl
  refine ⟨{ c' with workspace := next, printed := _ }, run_bind_of_ok hsession, hleaves, ?_⟩
  show c'.printed ++ _ = _
  rw [h.printed, List.map_append, List.map_singleton, String.join_append, hanswer,
    String.append_assoc]
  simp [notice]

/-- A file that cannot be resolved ends the command. -/
theorem stop (h : Resolves a modules c done c')
    (hfiles : AreFiles c.workspace.files ((done ++ [file]).map Path.read)) {failure : Failure}
    (hanswer : (alone a modules c file).1 = .error failure) :
    ∃ next, (resolveOne a modules file).run c' = (.error (badImport file failure), next) ∧
      Resolves a modules c done next := by
  obtain ⟨content, hstored⟩ := hfiles.stored (Path.read file) (by simp)
  obtain ⟨next, hrun, hleaves⟩ := h.leaves_step hfiles
  rw [hanswer] at hrun
  have hsession : (Action.session (badImport file)
      (resolveFile (generationRoot a) modules (Path.read file))).run c' =
        (.error (badImport file failure), { c' with workspace := next }) := by
    rw [run_session, hrun]
    rfl
  rw [List.map_append, List.map_singleton] at hleaves
  exact ⟨_, run_bind_of_error hsession, hleaves.of_error hstored hanswer, h.printed⟩

/-- Files that can be resolved are resolved. -/
theorem run (h : Resolves a modules c done c')
    (hfiles : AreFiles c.workspace.files ((done ++ files).map Path.read))
    (hanswers : ∀ file ∈ files, ∃ changed, (alone a modules c file).1 = .ok changed) :
    ∃ next, (files.forM (resolveOne a modules)).run c' = (.ok (), next) ∧
      Resolves a modules c (done ++ files) next := by
  induction files generalizing done c' with
  | nil =>
    rw [List.append_nil]
    exact ⟨c', rfl, h⟩
  | cons file files ih =>
    rw [List.append_cons] at hfiles ⊢
    obtain ⟨⟨changed, hfile⟩, hrest⟩ := List.forall_mem_cons.1 hanswers
    have hfirst : AreFiles c.workspace.files ((done ++ [file]).map Path.read) := by
      rw [List.map_append] at hfiles
      exact hfiles.of_append
    obtain ⟨next, hrun, hnext⟩ := h.step hfirst hfile
    obtain ⟨last, hlast, hdone⟩ := ih hnext hfiles hrest
    rw [List.forM_eq_forM, List.forM_cons]
    exact ⟨last, (run_bind_of_ok hrun).trans hlast, hdone⟩

/-- Files that were not reached are as they were. -/
theorem stored_eq (h : Resolves a modules c done c')
    (hdone : ∀ f ∈ done, ∃ content, c.workspace.files.stored (Path.read f) = .ok content)
    (hfile : ∀ f ∈ done, c.workspace.files.destination (Path.read file) ≠
      c.workspace.files.destination (Path.read f)) :
    c'.workspace.files.stored (Path.read file) = c.workspace.files.stored (Path.read file) := by
  have hshape := h.leaves.sameShape fun path hpath => by
    obtain ⟨f, hf, rfl⟩ := List.mem_map.1 hpath
    exact hdone f hf
  refine hshape.stored (h.leaves.other _ fun path hpath => ?_)
  obtain ⟨f, hf, rfl⟩ := List.mem_map.1 hpath
  exact hfile f hf

end Resolves

/-! ## The command -/

theorem endsWith_badImport {content : String} {failure : Failure}
    (h : c.workspace.files.stored (Path.read file) = .ok content)
    (hanswer : (alone a modules c file).1 = .error failure) :
    EndsWith file failure (badImport file failure) := by
  have hanswer' := hanswer
  rw [alone, (resolveAlone_stored _ _ h).1] at hanswer'
  rcases Resolver.answer_fails hanswer' with ⟨cause, rfl⟩ | ⟨fault, rfl⟩
  · exact .reported cause
  · rw [Resolver.answer_fault hanswer']
    exact .escaped

/-- A command that passes its checks resolves files one after the other.

The lines of a file tell what its resolution ends with (`Verdict`), and a file that cannot be
resolved is not written. Where each file can be resolved, each is resolved as if it were alone, and
the command tells whether it changed. Otherwise the first file that cannot be resolved ends the
command: the files before are resolved, this one and those behind it are as they were. -/
theorem perform_resolve (hcheck : ((check .resolve a).run c).1 = .ok ())
    (hmodules : ((configuredModules .resolve a).run c).1 = .ok modules)
    (hdistinct : (a.rest.map fun file =>
      c.workspace.files.destination (Path.read file)).Nodup) :
    (∀ file ∈ a.rest, ∃ content, c.workspace.files.stored (Path.read file) = .ok content ∧
      Verdict (resolverFor c.workspace.files (generationRoot a) modules) (Path.read file).parent
        content (alone a modules c file).1 ∧
      ∀ failure, (alone a modules c file).1 = .error failure →
        (alone a modules c file).2 = c.workspace.files) ∧
    ((∀ file ∈ a.rest, ∃ changed, (alone a modules c file).1 = .ok changed) →
      ∃ c', (perform .resolve a).run c = (.ok (), c') ∧ Resolves a modules c a.rest c') ∧
    ∀ before file after failure, a.rest = before ++ file :: after →
      (∀ f ∈ before, ∃ changed, (alone a modules c f).1 = .ok changed) →
      (alone a modules c file).1 = .error failure →
      ∃ abort c', (perform .resolve a).run c = (.error abort, c') ∧ EndsWith file failure abort ∧
        Resolves a modules c before c' ∧ ∀ f ∈ file :: after,
          c'.workspace.files.stored (Path.read f) = c.workspace.files.stored (Path.read f) := by
  have hstored := stored_of_check hcheck
  have hfiles : AreFiles c.workspace.files (a.rest.map Path.read) := by
    refine ⟨fun path hpath => ?_, ?_⟩
    · obtain ⟨file, hfile, rfl⟩ := List.mem_map.1 hpath
      exact hstored file hfile
    · rw [List.map_map]
      exact hdistinct
  have hperform : (perform .resolve a).run c = (a.rest.forM (resolveOne a modules)).run c :=
    ((isPassive_check .resolve a).run_bind hcheck).trans
      ((isPassive_configuredModules .resolve a).run_bind hmodules)
  refine ⟨fun file hfile => ?_, fun hanswers => ?_, ?_⟩
  · obtain ⟨content, hcontent⟩ := hstored file hfile
    refine ⟨content, hcontent, ?_, fun failure hfailure => resolveAlone_of_error hcontent hfailure⟩
    rw [alone, (resolveAlone_stored _ _ hcontent).1]
    exact Resolver.verdict ..
  · rw [hperform]
    exact (Resolves.nil a modules c).run hfiles hanswers
  · intro before file after failure hrest hbefore hfile
    rw [hrest] at hfiles hstored hdistinct hperform
    have hsplit : AreFiles c.workspace.files ((before ++ [file]).map Path.read) := by
      rw [List.append_cons, List.map_append] at hfiles
      exact hfiles.of_append
    have hfirst : AreFiles c.workspace.files (([] ++ before).map Path.read) := by
      rw [List.map_append] at hfiles
      exact hfiles.of_append
    obtain ⟨next, hrun, hnext⟩ := (Resolves.nil a modules c).run hfirst hbefore
    obtain ⟨last, hstop, hlast⟩ := hnext.stop hsplit hfile
    obtain ⟨content, hcontent⟩ := hstored file (by simp)
    refine ⟨badImport file failure, last, ?_, endsWith_badImport hcontent hfile, hlast,
      fun f hf => ?_⟩
    · rw [hperform, List.forM_eq_forM, List.forM_append, List.forM_cons]
      exact (run_bind_of_ok hrun).trans (run_bind_of_error hstop)
    · refine hlast.stored_eq (fun f hf => hstored f (List.mem_append_left _ hf)) fun g hg => ?_
      rw [List.map_append, List.nodup_append] at hdistinct
      exact (hdistinct.2.2 _ (List.mem_map_of_mem hg) _ (List.mem_map_of_mem hf)).symm

/-! ### A file that ends the command -/

/-- Two files with an import that can be resolved among the main sources, and between them one with
such an import and, behind it, one that is not terminated. -/
def brokenConsole : Console :=
  ⟨⟨⟨[], [(["test"], .directory), (["main"], .directory), (["main", "b"], .file ""),
    (["test", "a"], .file "require('./b')\n"),
    (["test", "c"], .file "require('./b')\nrequire('x\n"),
    (["test", "d"], .file "require('./b')\n")]⟩, []⟩, ""⟩

/-- The arguments with these files. -/
def brokenArguments : Arguments := ⟨[(.generatedRoot, "gen")], ["test/a", "test/c", "test/d"]⟩

/-- The first file is resolved, the second one ends the command and the third one is not reached. -/
theorem perform_resolve_broken :
    ∃ c', (perform .resolve brokenArguments).run brokenConsole =
        (.error (.complaint (.reported
          ("test/c" ++ ": " ++ (MalformedImport.unterminated "require('x").message))), c') ∧
      Resolves brokenArguments predefined brokenConsole ["test/a"] c' ∧
      ∀ file ∈ ["test/c", "test/d"], c'.workspace.files.stored (Path.read file) =
        brokenConsole.workspace.files.stored (Path.read file) := by
  have hresolved : (alone brokenArguments predefined brokenConsole "test/a").1 = .ok true := by
    decide +kernel
  have hbroken : (alone brokenArguments predefined brokenConsole "test/c").1 =
      .error (.malformedImport (.unterminated "require('x")) := by
    decide +kernel
  have hcheck : ((check .resolve brokenArguments).run brokenConsole).1 = .ok () := by
    decide +kernel
  have hmodules : ((configuredModules .resolve brokenArguments).run brokenConsole).1 =
      .ok predefined := by
    decide +kernel
  obtain ⟨-, -, hstops⟩ := perform_resolve hcheck hmodules (by decide +kernel)
  have hbefore : ∀ file ∈ ["test/a"], ∃ changed,
      (alone brokenArguments predefined brokenConsole file).1 = .ok changed :=
    List.forall_mem_singleton.2 ⟨true, hresolved⟩
  obtain ⟨abort, c', hrun, hends, hresolves, hrest⟩ :=
    hstops ["test/a"] "test/c" ["test/d"] _ rfl hbefore hbroken
  cases hends
  exact ⟨c', hrun, hresolves, hrest⟩

end Protogen.Command
