import Protogen.Proofs.Import.Verdict

/-!
# Resolution of several files

The resolution of a file reads which files are there and stores a text in place of another one, so
that it leaves everything as it is that the resolution of another file looks at.

* `run_resolveFile_stored` is the resolution of a file of a tree: the answer, and the one text that
  may be another one afterwards.
* `Leaves` compares a tree with the one in which some files have been resolved, each as if it were
  resolved alone; `Leaves.step` is one more file, `Leaves.run` several of them.
* `resolveFiles_perm`: the order does not matter if all imports can be resolved.
* `resolveFiles_interrupted`: it does if the resolution ends early, at a file that cannot be looked
  at.
-/

set_option autoImplicit false

namespace Protogen.Import

open FileTree Text

variable {root path : Path} {modules : List Module} {w v : Workspace}

/-! ## One file -/

/-- Where an import cannot be resolved, nothing is stored. -/
theorem run_resolveFile_error {text : String} {failure : Failure}
    (hread : w.files.readText path = .ok text)
    (hresolved : (resolverFor w.files root modules).resolveText path.parent text =
      .error failure) :
    ∃ v, (resolveFile root modules path).run w = (.error failure, v) ∧ v.files = w.files := by
  have hnoted : ∀ records, ({ w with records := records } : Workspace).files.readText path =
      .ok text := fun _ => hread
  have hget : ∀ v : Workspace, (get : Session Workspace).run v = (.ok v, v) := fun _ => rfl
  unfold resolveFile
  rw [run_bind_of_ok (Session.run_note _ w),
    run_bind_of_ok (Session.run_readText (hnoted _)),
    run_bind_of_ok (hget _), run_bind_of_ok (Session.run_note ..), hresolved,
    Session.run_demand_error]
  exact ⟨_, rfl, rfl⟩

/-- The resolution of a file answers what its text tells, and at most the text is another one
afterwards. -/
theorem run_resolveFile_stored (root : Path) (modules : List Module) {content : String}
    (h : w.files.stored path = .ok content) :
    ∃ v, (resolveFile root modules path).run w =
        ((resolverFor w.files root modules).answer path.parent content, v) ∧
      v.files.workingDirectory = w.files.workingDirectory ∧
      ∀ l, v.files.find? l = if l = w.files.destination path then
        some (.file ((resolverFor w.files root modules).remainder path.parent content))
        else w.files.find? l := by
  have hread : w.files.readText path = .ok (Resolver.asRead content) :=
    readText_eq_ok_iff.2 ⟨content, h, rfl⟩
  obtain ⟨l, hlocate, hfind⟩ := stored_eq_ok.1 h
  obtain rfl := locate_eq_ok hlocate
  cases hresolved : (resolverFor w.files root modules).resolveText path.parent
      (Resolver.asRead content) with
  | error failure =>
    obtain ⟨v, hrun, hfiles⟩ := run_resolveFile_error hread hresolved
    refine ⟨v, ?_, by rw [hfiles], fun l => ?_⟩
    · rw [hrun, Resolver.answer, hresolved]
      rfl
    · rw [hfiles, Resolver.remainder_of_error hresolved]
      split
      · rename_i hl
        rw [hl, hfind]
      · rfl
  | ok resolved =>
    obtain ⟨changed, v, hrun⟩ := exists_run_resolveFile hread hresolved
    obtain ⟨text, result, htext, hresult, hchanged, -⟩ := run_resolveFile_eq_ok hrun
    obtain rfl := Except.ok.inj (htext.symm.trans hread)
    obtain rfl := Except.ok.inj (hresult.symm.trans hresolved)
    obtain ⟨hshape, hother, old, new, hold, hnew, hstored⟩ := resolveFile_rewrites hrun
    obtain rfl : old = content := by simpa [hfind] using hold.symm
    refine ⟨v, ?_, hshape.workingDirectory, fun l => ?_⟩
    · have hanswer : decide (result ≠ Resolver.asRead old) = changed := by
        cases changed <;> simpa using hchanged
      rw [hrun, Resolver.answer, hresolved]
      show _ = (Except.ok (decide _), _)
      rw [hanswer]
    · rw [Resolver.remainder_of_ok hnew]
      split
      · rename_i hl
        rw [hl, hstored]
      · rename_i hl
        exact hother l hl

/-! ## Several files -/

/-- What the resolution of a file answers, and the files it leaves, if no other one is resolved. -/
def resolveAlone (root : Path) (modules : List Module) (w : Workspace) (path : Path) :
    Except Failure Bool × FileTree :=
  let run := (resolveFile root modules path).run w
  (run.1, run.2.files)

/-- A tree in which some files have been resolved. -/
structure Leaves (root : Path) (modules : List Module) (w : Workspace) (done : List Path)
    (t : FileTree) : Prop where
  workingDirectory : t.workingDirectory = w.files.workingDirectory
  /-- each of these files is as if it were resolved alone -/
  resolved : ∀ path ∈ done, t.find? (w.files.destination path) =
    (resolveAlone root modules w path).2.find? (w.files.destination path)
  /-- everything else is as it was -/
  other : ∀ l, (∀ path ∈ done, l ≠ w.files.destination path) → t.find? l = w.files.find? l

/-- Whether paths lead to files, each to another one. -/
structure AreFiles (t : FileTree) (paths : List Path) : Prop where
  stored : ∀ path ∈ paths, ∃ content, t.stored path = .ok content
  distinct : (paths.map t.destination).Nodup

theorem AreFiles.perm {t : FileTree} {paths paths' : List Path} (h : AreFiles t paths)
    (hperm : paths.Perm paths') : AreFiles t paths' :=
  ⟨fun path hpath => h.stored path (hperm.mem_iff.2 hpath), (hperm.map _).nodup_iff.1 h.distinct⟩

theorem AreFiles.of_append {t : FileTree} {paths more : List Path}
    (h : AreFiles t (paths ++ more)) : AreFiles t paths :=
  ⟨fun path hpath => h.stored path (List.mem_append_left _ hpath),
    h.distinct.sublist ((List.sublist_append_left ..).map _)⟩

theorem resolveAlone_stored (root : Path) (modules : List Module) {content : String}
    (h : w.files.stored path = .ok content) :
    (resolveAlone root modules w path).1 =
        (resolverFor w.files root modules).answer path.parent content ∧
      (resolveAlone root modules w path).2.find? (w.files.destination path) =
        some (.file ((resolverFor w.files root modules).remainder path.parent content)) := by
  obtain ⟨v, hrun, -, hfind⟩ := run_resolveFile_stored root modules h
  simp only [resolveAlone, hrun, true_and]
  rw [hfind, if_pos rfl]

/-- A file that is not resolved is not written. -/
theorem resolveAlone_of_error {content : String} {failure : Failure}
    (h : w.files.stored path = .ok content)
    (herror : (resolveAlone root modules w path).1 = .error failure) :
    (resolveAlone root modules w path).2 = w.files := by
  have hread : w.files.readText path = .ok (Resolver.asRead content) :=
    readText_eq_ok_iff.2 ⟨content, h, rfl⟩
  rw [(resolveAlone_stored root modules h).1] at herror
  obtain ⟨v, hrun, hfiles⟩ := run_resolveFile_error hread (Resolver.resolveText_of_answer herror)
  rw [resolveAlone, hrun]
  exact hfiles

namespace Leaves

variable {done : List Path} {t : FileTree}

theorem nil (root : Path) (modules : List Module) (w : Workspace) :
    Leaves root modules w [] w.files :=
  ⟨rfl, by simp, fun _ _ => rfl⟩

/-- Files are where they were. -/
theorem sameShape (h : Leaves root modules w done t)
    (hfiles : ∀ path ∈ done, ∃ content, w.files.stored path = .ok content) :
    SameShape w.files t := by
  refine ⟨h.workingDirectory, fun l => ?_⟩
  by_cases hl : ∃ path ∈ done, l = w.files.destination path
  · obtain ⟨path, hpath, rfl⟩ := hl
    obtain ⟨content, hcontent⟩ := hfiles path hpath
    obtain ⟨l, hlocate, hfind⟩ := stored_eq_ok.1 hcontent
    obtain rfl := locate_eq_ok hlocate
    rw [h.resolved path hpath, (resolveAlone_stored root modules hcontent).2, hfind]
    rfl
  · rw [h.other l fun path hpath heq => hl ⟨path, hpath, heq⟩]

/-- One more file is resolved as if it were alone. -/
theorem step (h : Leaves root modules w done v.files) (hfiles : AreFiles w.files (done ++ [path])) :
    ∃ next, (resolveFile root modules path).run v = ((resolveAlone root modules w path).1, next) ∧
      Leaves root modules w (done ++ [path]) next.files := by
  have hdone : ∀ p ∈ done, ∃ content, w.files.stored p = .ok content :=
    fun p hp => hfiles.stored p (List.mem_append_left _ hp)
  have hnew : ∀ p ∈ done, w.files.destination path ≠ w.files.destination p := by
    have hdistinct := hfiles.distinct
    rw [List.map_append, List.nodup_append] at hdistinct
    intro p hp heq
    exact hdistinct.2.2 _ (List.mem_map_of_mem hp) _ (List.mem_singleton_self _) heq.symm
  obtain ⟨content, hcontent⟩ := hfiles.stored path (by simp)
  have hshape := h.sameShape hdone
  have hresolver := hshape.resolverFor root modules
  have hdestination := hshape.destination path
  have hstored : v.files.stored path = .ok content :=
    (hshape.stored (h.other _ hnew)).trans hcontent
  obtain ⟨next, hrun, hdirectory, hfind⟩ :=
    run_resolveFile_stored root modules hstored
  obtain ⟨hanswer, halone⟩ := resolveAlone_stored root modules hcontent
  rw [hresolver, hdestination] at hfind
  refine ⟨next, ?_, hdirectory.trans h.workingDirectory, fun p hp => ?_, fun l hl => ?_⟩
  · rw [hrun, hanswer, hresolver]
  · rw [hfind]
    rcases List.mem_append.1 hp with hold | hlast
    · rw [if_neg (hnew p hold).symm, h.resolved p hold]
    · rw [List.mem_singleton.1 hlast, if_pos rfl, halone]
  · rw [hfind, if_neg (hl path (by simp))]
    exact h.other l fun p hp => hl p (List.mem_append_left _ hp)

/-- A file that could not be resolved is as it was. -/
theorem of_error {content : String} {failure : Failure}
    (h : Leaves root modules w (done ++ [path]) t) (hstored : w.files.stored path = .ok content)
    (herror : (resolveAlone root modules w path).1 = .error failure) :
    Leaves root modules w done t := by
  refine ⟨h.workingDirectory, fun p hp => h.resolved p (List.mem_append_left _ hp), fun l hl => ?_⟩
  by_cases hlast : l = w.files.destination path
  · rw [hlast, h.resolved path (by simp), resolveAlone_of_error hstored herror]
  · refine h.other l fun p hp => ?_
    rcases List.mem_append.1 hp with hold | hnew
    · exact hl p hold
    · rwa [List.mem_singleton.1 hnew]

end Leaves

/-- Files that are all answered when each is resolved alone are resolved one after the other, each as
if it were alone. -/
theorem Leaves.run {done paths : List Path} {changed : Path → Bool}
    (h : Leaves root modules w done v.files) (hfiles : AreFiles w.files (done ++ paths))
    (hanswered : ∀ path ∈ paths, (resolveAlone root modules w path).1 = .ok (changed path)) :
    ∃ next, (paths.mapM (resolveFile root modules)).run v = (.ok (paths.map changed), next) ∧
      Leaves root modules w (done ++ paths) next.files := by
  induction paths generalizing done v with
  | nil =>
    rw [List.append_nil]
    exact ⟨v, rfl, h⟩
  | cons path paths ih =>
    rw [List.append_cons] at hfiles ⊢
    obtain ⟨hfirst, hrest⟩ := List.forall_mem_cons.1 hanswered
    obtain ⟨between, hrun, hbetween⟩ := h.step hfiles.of_append
    rw [hfirst] at hrun
    obtain ⟨next, hmore, hnext⟩ := ih hbetween hfiles hrest
    refine ⟨next, ?_, hnext⟩
    rw [List.mapM_cons, run_bind_of_ok hrun, run_bind_of_ok hmore]
    rfl

/-- A file that is not answered ends the resolution. Those before it are resolved; it and those behind
it are as they were. -/
theorem Leaves.run_stops (before after : List Path) (changed : Path → Bool) {failure : Failure}
    (hfails : (resolveAlone root modules w path).1 = .error failure)
    (hfiles : AreFiles w.files (before ++ path :: after))
    (hanswered : ∀ path ∈ before, (resolveAlone root modules w path).1 = .ok (changed path)) :
    ∃ v, ((before ++ path :: after).mapM (resolveFile root modules)).run w = (.error failure, v) ∧
      Leaves root modules w before v.files := by
  obtain ⟨content, hcontent⟩ := hfiles.stored path (by simp)
  rw [List.append_cons] at hfiles
  obtain ⟨between, hrun, hbetween⟩ :=
    (Leaves.nil root modules w).run hfiles.of_append.of_append hanswered
  obtain ⟨v, hstop, hleaves⟩ := hbetween.step hfiles.of_append
  rw [hfails] at hstop
  refine ⟨v, ?_, hleaves.of_error hcontent hfails⟩
  rw [List.mapM_append, run_bind_of_ok hrun, List.mapM_cons]
  exact run_bind_of_error (run_bind_of_error hstop)

/-- Two trees in which the same files have been resolved have the same nodes. -/
theorem Leaves.sameNodes {done done' : List Path} {t u : FileTree}
    (h : Leaves root modules w done t) (h' : Leaves root modules w done' u)
    (hsame : ∀ path, path ∈ done ↔ path ∈ done') : SameNodes t u := by
  refine ⟨h'.workingDirectory.trans h.workingDirectory.symm, fun l => ?_⟩
  by_cases hl : ∃ path ∈ done, l = w.files.destination path
  · obtain ⟨path, hpath, rfl⟩ := hl
    rw [h.resolved path hpath, h'.resolved path ((hsame path).1 hpath)]
  · rw [h.other l fun path hpath heq => hl ⟨path, hpath, heq⟩,
      h'.other l fun path hpath heq => hl ⟨path, (hsame path).2 hpath, heq⟩]

/-- Whether the imports of a file can be resolved: none is malformed, and every file that is looked up
for one of them can be looked at. -/
structure IsAnswerable (root : Path) (modules : List Module) (t : FileTree) (path : Path) :
    Prop where
  terminated : ∀ content, t.stored path = .ok content →
    ∀ l ∈ Text.lines content.toList, ¬IsUnterminated l.content
  seen : ∀ content, t.stored path = .ok content →
    ∀ l ∈ Text.lines content.toList, ¬(resolverFor t root modules).IsBlocked path.parent l

theorem isAnswerable_of_stored {t : FileTree} {content : String} (h : t.stored path = .ok content)
    (hterminated : ∀ l ∈ Text.lines content.toList, ¬IsUnterminated l.content)
    (hseen : ∀ l ∈ Text.lines content.toList,
      ¬(resolverFor t root modules).IsBlocked path.parent l) :
    IsAnswerable root modules t path := by
  constructor <;> intro content' h' <;> obtain rfl := Except.ok.inj (h.symm.trans h')
  · exact hterminated
  · exact hseen

/-- The resolution of such a file is answered. -/
theorem IsAnswerable.exists_answer (h : IsAnswerable root modules w.files path)
    (hstored : ∃ content, w.files.stored path = .ok content) :
    ∃ changed, (resolveAlone root modules w path).1 = .ok changed := by
  obtain ⟨content, hcontent⟩ := hstored
  rw [(resolveAlone_stored root modules hcontent).1, Resolver.exists_answer_iff]
  exact fun l hl => ⟨h.terminated content hcontent l hl, h.seen content hcontent l hl⟩

/-- Files whose imports can be resolved are resolved in any order with the same answers and the same
files in the end, whichever of them import each other: each of them as if it were alone. -/
theorem resolveFiles_perm (root : Path) (modules : List Module) {paths paths' : List Path}
    (hfiles : AreFiles w.files paths)
    (hanswerable : ∀ path ∈ paths, IsAnswerable root modules w.files path)
    (hperm : paths.Perm paths') :
    ∃ (changed : Path → Bool) (v v' : Workspace),
      (paths.mapM (resolveFile root modules)).run w = (.ok (paths.map changed), v) ∧
      (paths'.mapM (resolveFile root modules)).run w = (.ok (paths'.map changed), v') ∧
      SameNodes v.files v'.files ∧
      ∀ path ∈ paths, (resolveAlone root modules w path).1 = .ok (changed path) ∧
        v.files.find? (w.files.destination path) =
          (resolveAlone root modules w path).2.find? (w.files.destination path) := by
  have hanswered : ∀ path ∈ paths, ∃ changed, (resolveAlone root modules w path).1 = .ok changed :=
    fun path hpath => (hanswerable path hpath).exists_answer (hfiles.stored path hpath)
  obtain ⟨changed, hchanged⟩ : ∃ changed : Path → Bool,
      ∀ path ∈ paths, (resolveAlone root modules w path).1 = .ok (changed path) := by
    refine ⟨fun path => (resolveAlone root modules w path).1.toOption.getD false, ?_⟩
    intro path hpath
    obtain ⟨answer, hanswer⟩ := hanswered path hpath
    show _ = Except.ok ((resolveAlone root modules w path).1.toOption.getD false)
    rw [hanswer]
    rfl
  have hchanged' : ∀ path ∈ paths', (resolveAlone root modules w path).1 = .ok (changed path) :=
    fun path hpath => hchanged path (hperm.mem_iff.2 hpath)
  obtain ⟨v, hrun, hleaves⟩ := (Leaves.nil root modules w).run hfiles hchanged
  obtain ⟨v', hrun', hleaves'⟩ := (Leaves.nil root modules w).run (hfiles.perm hperm) hchanged'
  refine ⟨changed, v, v', hrun, hrun', hleaves.sameNodes hleaves' fun path => ?_,
    fun path hpath => ⟨hchanged path hpath, hleaves.resolved path hpath⟩⟩
  exact hperm.mem_iff

/-! ### Files that import each other -/

/-- A test that imports a file of the main sources as if it were beside, and that file, which
imports the test. -/
def mutualTree : FileTree :=
  ⟨[], [(["test"], .directory), (["main"], .directory), (["test", "a"], .file "require('./b')\n"),
    (["main", "b"], .file "require('../test/a')\n")]⟩

/-- The test is changed and the other file is not, in whatever order they are resolved. -/
theorem resolveFiles_perm_mutual : ∃ v v' : Workspace,
    ([Path.read "test/a", Path.read "main/b"].mapM (resolveFile (Path.read "gen") [])).run
        { files := mutualTree } = (.ok [true, false], v) ∧
      ([Path.read "main/b", Path.read "test/a"].mapM (resolveFile (Path.read "gen") [])).run
        { files := mutualTree } = (.ok [false, true], v') ∧
      SameNodes v.files v'.files := by
  have htest : mutualTree.stored (Path.read "test/a") = .ok "require('./b')\n" := by
    decide +kernel
  have hmain : mutualTree.stored (Path.read "main/b") = .ok "require('../test/a')\n" := by
    decide +kernel
  have hfiles : AreFiles mutualTree [Path.read "test/a", Path.read "main/b"] := by
    refine ⟨?_, by decide +kernel⟩
    rw [List.forall_mem_cons, List.forall_mem_singleton]
    exact ⟨⟨_, htest⟩, ⟨_, hmain⟩⟩
  have hanswerable : ∀ path ∈ [Path.read "test/a", Path.read "main/b"],
      IsAnswerable (Path.read "gen") [] mutualTree path := by
    rw [List.forall_mem_cons, List.forall_mem_singleton]
    exact ⟨isAnswerable_of_stored htest (by decide +kernel) (by decide +kernel),
      isAnswerable_of_stored hmain (by decide +kernel) (by decide +kernel)⟩
  have hchanged : (resolveAlone (Path.read "gen") [] { files := mutualTree }
      (Path.read "test/a")).1 = .ok true := by
    decide +kernel
  have hkept : (resolveAlone (Path.read "gen") [] { files := mutualTree }
      (Path.read "main/b")).1 = .ok false := by
    decide +kernel
  obtain ⟨changed, v, v', hrun, hrun', hsame, halone⟩ := resolveFiles_perm (Path.read "gen") []
    (w := { files := mutualTree }) hfiles hanswerable (List.Perm.swap ..)
  rw [List.forall_mem_cons, List.forall_mem_singleton, hchanged, hkept] at halone
  have htrue : changed (Path.read "test/a") = true := (Except.ok.inj halone.1.1).symm
  have hfalse : changed (Path.read "main/b") = false := (Except.ok.inj halone.2.1).symm
  refine ⟨v, v', ?_, ?_, hsame⟩
  · rw [hrun, List.map_cons, List.map_singleton, htrue, hfalse]
  · rw [hrun', List.map_cons, List.map_singleton, htrue, hfalse]

/-! ### A file that cannot be looked at -/

/-- A file whose name is too long cannot be looked at. -/
theorem lookFault?_of_long {t : FileTree} {name : String} (hroot : t.workingDirectory = [])
    (h : nameLimit < name.utf8ByteSize) : t.lookFault? ⟨.here, [name]⟩ = some .nameTooLong := by
  have hwalk : t.walk (t.origin ⟨.here, [name]⟩) [name] = .error .nameTooLong := by
    show t.walk t.workingDirectory [name] = _
    rw [hroot, walk]
    show (if nameLimit < name.utf8ByteSize then _ else _) = _
    rw [if_pos h]
  have hlocate : t.locate ⟨.here, [name]⟩ = .error .nameTooLong := by
    rw [locate]
    split
    · rfl
    · exact hwalk
  rw [lookFault?, hlocate]

/-- A line with the import of such a file is blocked. -/
theorem isBlocked_of_long {t : FileTree} {line : Text.Line} {s : Statement} {name : String}
    (hroot : t.workingDirectory = []) (h : nameLimit < name.utf8ByteSize) (hname : Path.IsName name)
    (hup : name ≠ "..") (hfound : Resolver.statementIn ⟨.here, []⟩ line = .ok (some s))
    (hpath : s.path = "./" ++ name) :
    (resolverFor t root modules).IsBlocked ⟨.here, []⟩ line := by
  have hrelative : s.isRelative = true := by
    have hstart : Text.startsWith "./" s.path = true :=
      startsWith_iff.2 ⟨name.toList, by rw [hpath, String.toList_append]⟩
    rw [Statement.isRelative, hstart, Bool.true_or]
  have hfile : s.importedFile = ⟨.here, [name]⟩ := by
    have habsolute : (Path.read name).isAbsolute = false := by
      rw [← Bool.not_eq_true, Path.isAbsolute_read_iff]
      intro hhead
      exact hname.noSlash (List.mem_of_mem_head? hhead)
    rw [Statement.importedFile, directory_of_statementIn hfound, hpath,
      Path.read_dotSlash habsolute, Path.join, habsolute]
    simp only [Path.normalize, Path.parts_read, Path.partsOf_of_isName hname]
    simp [Path.push, hup]
  refine ⟨s, hfound, s, ?_, ?_⟩
  · unfold Resolver.looks
    rw [Resolver.localize_of_not_isWellKnown (isWellKnown_of_isRelative hrelative)]
    simp only [hrelative, if_true]
    split <;> simp
  · show t.lookFault? s.importedFile ≠ none
    rw [hfile, lookFault?_of_long hroot h]
    simp

/-- The name of a file that is too long. -/
@[irreducible] def longName : String := String.ofList (List.replicate 256 'n')

theorem eq_of_mem_longName {c : Char} (h : c ∈ longName.toList) : c = 'n' := by
  unfold longName at h
  exact List.eq_of_mem_replicate (String.toList_ofList ▸ h)

/-- A line with the import of this file. -/
def longImport : String := "" ++ opening ++ ("./" ++ longName) ++ (closing ++ "")

/-- A file with this line, and one with an import of a module. -/
def interruptedTree : FileTree :=
  ⟨[], [(["a"], .file (longImport ++ "\n")), (["b"], .file "require('./net/c')\n")]⟩

/-- The module. -/
def directoryModule : Module := ⟨"net", [⟨["net"], false⟩]⟩

theorem isClean_longPath : isClean ("./" ++ longName).toList = true := by
  rw [String.toList_append, isClean_append]
  refine ⟨rfl, List.all_eq_true.2 fun c hc => ?_⟩
  rw [eq_of_mem_longName hc]
  rfl

theorem lines_longImport :
    Text.lines (longImport ++ "\n").toList = [⟨longImport.toList, ['\n']⟩] :=
  Text.lines_feed (isUnbroken_import rfl isClean_longPath rfl)

theorem statementIn_longImport :
    Resolver.statementIn ⟨.here, []⟩ ⟨longImport.toList, ['\n']⟩ =
      .ok (some ⟨⟨.here, []⟩, "" ++ opening, "./" ++ longName, closing ++ ""⟩) :=
  statementIn_append "" ['\n'] rfl isClean_longPath

/-- The first file is not answered. -/
theorem resolveAlone_interrupted :
    (resolveAlone (Path.read "gen") [directoryModule] { files := interruptedTree } (Path.read "a")).1 =
      .error (.file .nameTooLong) := by
  have hstored : interruptedTree.stored (Path.read "a") = .ok (longImport ++ "\n") := by
    decide +kernel
  have hname : Path.IsName longName :=
    ⟨fun hslash => absurd (eq_of_mem_longName hslash) (by decide), by decide +kernel⟩
  have hblocked : (resolverFor interruptedTree (Path.read "gen") [directoryModule]).IsBlocked
      (Path.read "a").parent ⟨longImport.toList, ['\n']⟩ :=
    isBlocked_of_long rfl (by decide +kernel) hname (by decide +kernel) statementIn_longImport rfl
  obtain ⟨fault, hfault⟩ := Resolver.answer_hindered_iff.2
    ⟨[], _, [], lines_longImport, hblocked, by simp⟩
  rw [(resolveAlone_stored _ _ hstored).1, hfault, Resolver.answer_fault hfault]

/-- Which files are resolved depends on the order where the resolution ends early: no import is
malformed, but the second file is changed only if it is the first. -/
theorem resolveFiles_interrupted : ∃ v v' : Workspace,
    AreFiles interruptedTree [Path.read "a", Path.read "b"] ∧
      (∀ path ∈ [Path.read "a", Path.read "b"], ∀ content,
        interruptedTree.stored path = .ok content →
          ∀ l ∈ Text.lines content.toList, ¬IsUnterminated l.content) ∧
      ([Path.read "a", Path.read "b"].mapM (resolveFile (Path.read "gen") [directoryModule])).run
        { files := interruptedTree } = (.error (.file .nameTooLong), v) ∧
      ([Path.read "b", Path.read "a"].mapM (resolveFile (Path.read "gen") [directoryModule])).run
        { files := interruptedTree } = (.error (.file .nameTooLong), v') ∧
      v.files.find? ["b"] = some (.file "require('./net/c')\n") ∧
      v'.files.find? ["b"] = some (.file "require('net/net/c')\n") := by
  have hlong : interruptedTree.stored (Path.read "a") = .ok (longImport ++ "\n") := by
    decide +kernel
  have hnet : interruptedTree.stored (Path.read "b") = .ok "require('./net/c')\n" := by
    decide +kernel
  have hfiles : AreFiles interruptedTree [Path.read "a", Path.read "b"] := by
    refine ⟨?_, by decide +kernel⟩
    rw [List.forall_mem_cons, List.forall_mem_singleton]
    exact ⟨⟨_, hlong⟩, ⟨_, hnet⟩⟩
  have hchanged : (resolveAlone (Path.read "gen") [directoryModule] { files := interruptedTree }
      (Path.read "b")).1 = .ok true := by
    decide +kernel
  have hresolved : (resolveAlone (Path.read "gen") [directoryModule] { files := interruptedTree }
      (Path.read "b")).2.find? ["b"] = some (.file "require('net/net/c')\n") := by
    decide +kernel
  obtain ⟨v, hrun, hleaves⟩ :=
    Leaves.run_stops [] [Path.read "b"] (fun _ => true) resolveAlone_interrupted hfiles (by simp)
  obtain ⟨v', hrun', hleaves'⟩ :=
    Leaves.run_stops [Path.read "b"] [] (fun _ => true) resolveAlone_interrupted
      (hfiles.perm (.swap ..)) (List.forall_mem_singleton.2 hchanged)
  refine ⟨v, v', hfiles, ?_, hrun, hrun', ?_, ?_⟩
  · rw [List.forall_mem_cons, List.forall_mem_singleton, hlong, hnet]
    constructor
    · intro content hcontent
      rw [← Except.ok.inj hcontent, lines_longImport, List.forall_mem_singleton]
      intro hunterminated
      have herror : Resolver.statementIn ⟨.here, []⟩ ⟨longImport.toList, ['\n']⟩ =
          .error (.unterminated (String.ofList longImport.toList)) :=
        Resolver.statementIn_eq_error_iff.2 ⟨hunterminated, rfl⟩
      rw [statementIn_longImport] at herror
      cases herror
    · intro content hcontent
      rw [← Except.ok.inj hcontent]
      decide +kernel
  · rw [hleaves.other _ (by simp)]
    decide +kernel
  · have hplace : interruptedTree.destination (Path.read "b") = ["b"] := by decide +kernel
    have hfile := hleaves'.resolved _ (List.mem_singleton_self _)
    rw [hplace] at hfile
    rw [hfile, hresolved]

end Protogen.Import
