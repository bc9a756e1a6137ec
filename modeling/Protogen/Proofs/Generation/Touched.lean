import Protogen.Proofs.FileTree.Growth
import Protogen.Proofs.Generation.Declaring
import Protogen.Proofs.Generation.Order
import Protogen.Proofs.Session.Notes

/-!
# What a run touches

Each step of a run lets the file tree grow and touches a few places: the appending the compiled files
of the files that declare a type, the index its own place, and the resolution of imports the compiled
files.

* `grows_of_appendCode`, `grows_of_writeIndex` and `grows_of_mapM` are the steps, `grows_of_run` is
  the whole run.
* `notes_run`: only compiled files are told of as appended to or resolved.
* `OnlyResolves` says of the file at the end of a path that nothing but the resolution of its
  imports happens to it; so it is with the compiled file of a file without types
  (`onlyResolves_of_run`).
* `run_touches` puts it together.
-/

set_option autoImplicit false

namespace Protogen.Generation

open Schema FileTree Import

variable {g : Generation} {s : FileSet} {files before after : List (Option File)} {f : File}
variable {w w' v : Workspace} {p path : Path} {r : Rendered} {text : String}

/-! ## Growing trees -/

theorem grows_of_run_append (h : (append p text).run w = (.ok (), w')) :
    Grows w.files [w.files.destination p] w'.files := by
  obtain ⟨haccepts, hstored⟩ := stored_of_run_append h
  exact .of_stored haccepts hstored

/-- Texts are appended where their paths lead. -/
theorem grows_of_forM (h : (r.forM fun e => append e.1 e.2).run w = (.ok (), w')) :
    Grows w.files ((r.map Prod.fst).map w.files.destination) w'.files := by
  induction r generalizing w with
  | nil =>
    cases h
    exact .refl _
  | cons e r ih =>
    obtain ⟨_, next, hfirst, h⟩ := Session.run_bind_eq_ok.1 h
    have hgrows := grows_of_run_append hfirst
    have hrest := ih h
    rw [funext hgrows.destination] at hrest
    rw [List.map_cons, List.map_cons, ← List.singleton_append]
    exact hgrows.trans hrest

/-- Code is appended to the compiled files of the files that declare a type. -/
theorem grows_of_appendCode (h : (g.appendCode s).run w = (.ok (), v)) :
    ∃ (files : List (Option File)) (paths : List Path), s.files = some files ∧
      (∀ p, p ∈ paths ↔ ∃ f, some f ∈ files ∧ f.DeclaresAny ∧ g.jsPath f = .ok p) ∧
        Grows w.files (paths.map w.files.destination) v.files := by
  obtain ⟨registry, parsers, typeUrls, -, hparsers, htypeUrls, happend⟩ := of_appendCode h
  obtain ⟨files, hfiles⟩ := exists_files_of_renderEach htypeUrls
  exact ⟨files, _, hfiles, fun p => mem_keys_merge_iff hfiles hparsers htypeUrls,
    grows_of_forM happend⟩

theorem grows_of_writeIndex (h : (g.writeIndex s).run w = (.ok path, v)) :
    Grows w.files [w.files.destination g.indexPath] v.files := by
  obtain ⟨text, -, haccepts, hstored⟩ := stored_of_writeIndex h
  exact .of_stored haccepts hstored

theorem grows_of_mapM {items : List (Option File)} {results : List (Option Path)}
    (h : (items.mapM g.resolveCompiled).run w = (.ok results, w')) :
    Grows w.files ((g.jsPaths items).map w.files.destination) w'.files :=
  .of_sameShape (sameShape_of_mapM h) fun _ => find?_of_mapM h

/-- Before imports are resolved, a run touches the index and the compiled files of the files that
declare a type. -/
theorem exists_grows_of_run (h : (g.run s).run w = (.ok (), w')) :
    ∃ (files : List (Option File)) (paths : List Path) (next : Workspace)
      (results : List (Option Path)), s.files = some files ∧
      (∀ p, p ∈ paths ↔ ∃ f, some f ∈ files ∧ f.DeclaresAny ∧ g.jsPath f = .ok p) ∧
      Grows w.files (paths.map w.files.destination ++ [w.files.destination g.indexPath])
        next.files ∧
      (files.mapM g.resolveCompiled).run next = (.ok results, w') := by
  obtain ⟨v, happend, hfinish⟩ := run_eq_ok_iff.1 h
  obtain ⟨files, paths, hfiles, hpaths, hcode⟩ := grows_of_appendCode happend
  obtain ⟨_, next, results, hindex, hresults⟩ := of_finish hfiles hfinish
  have hwritten := grows_of_writeIndex hindex
  rw [hcode.destination] at hwritten
  exact ⟨files, paths, next, results, hfiles, hpaths, hcode.trans hwritten, hresults⟩

/-- A run touches the index and the compiled files. -/
theorem grows_of_run (h : (g.run s).run w = (.ok (), w')) :
    Grows w.files (w.files.destination g.indexPath :: (g.compiledFiles s).map w.files.destination)
      w'.files := by
  obtain ⟨files, paths, next, results, hfiles, hpaths, hgrows, hresults⟩ := exists_grows_of_run h
  have hresolved := grows_of_mapM hresults
  rw [funext hgrows.destination] at hresolved
  refine (hgrows.trans hresolved).mono ?_
  rw [compiledFiles_eq hfiles]
  intro l hl
  simp only [List.mem_append, List.mem_singleton] at hl
  rcases hl with (hl | rfl) | hl
  · obtain ⟨p, hp, rfl⟩ := List.mem_map.1 hl
    obtain ⟨f, hf, -, hpath⟩ := (hpaths p).1 hp
    exact List.mem_cons_of_mem _ (List.mem_map_of_mem (mem_jsPaths_iff.2 ⟨f, hf, hpath⟩))
  · exact List.mem_cons_self ..
  · exact List.mem_cons_of_mem _ hl

/-! ## Records -/

/-- A record tells of no other file that is appended to or resolved than those of some paths. -/
def TellsOf (paths : List Path) (record : Record) : Prop :=
  ∀ p, record.edited? = some p → p ∈ paths

theorem notes_append {paths : List Path} (hp : p ∈ paths) (text : String) :
    Session.Notes (TellsOf paths) (append p text) := by
  unfold append
  refine (Session.notes_makeDirectories _).bind fun _ => (Session.notes_change _).bind fun _ => ?_
  refine Session.notes_note fun record hrecord q hq => ?_
  rw [List.mem_singleton.1 hrecord] at hq
  rwa [← Option.some.inj hq]

theorem notes_writeIndex (g : Generation) (s : FileSet) (paths : List Path) :
    Session.Notes (TellsOf paths) (g.writeIndex s) := by
  unfold writeIndex
  refine (Session.notes_makeDirectories _).bind fun _ => (Session.notes_demand _).bind fun _ => ?_
  refine (Session.notes_change _).bind fun _ => .bind ?_ fun _ => Session.notes_pure _
  refine Session.notes_note fun record hrecord q hq => ?_
  rw [List.mem_singleton.1 hrecord] at hq
  cases hq

theorem notes_resolveCompiled {item : Option File} (hitem : item ∈ files) :
    Session.Notes (TellsOf (g.jsPaths files)) (g.resolveCompiled item) := by
  unfold resolveCompiled
  refine .demand_bind fun f hf => .demand_bind fun path hpath => ?_
  rw [failing_eq_ok, declared_eq_ok_iff] at hf
  rw [failing_eq_ok] at hpath
  refine (Session.notes_isPresent path).bind fun found => .ite ?_ (Session.notes_pure _)
  refine .bind ?_ fun _ => Session.notes_pure _
  refine (Import.notes_resolveFile _ _ path).imp fun record hrecord q hq => ?_
  rw [hrecord q hq]
  exact mem_jsPaths_iff.2 ⟨f, hf ▸ hitem, hpath⟩

/-- Only compiled files are told of as appended to or resolved. -/
theorem notes_run (g : Generation) (s : FileSet) :
    Session.Notes (TellsOf (g.compiledFiles s)) (g.run s) := by
  unfold run
  refine (Session.notes_demand _).bind fun registry => ?_
  refine .demand_bind fun parsers hparsers => .demand_bind fun typeUrls htypeUrls => ?_
  refine .bind (.forM fun e he => ?_) fun _ => (g.notes_writeIndex s _).bind fun _ => ?_
  · obtain ⟨files, f, hfiles, hf, hpath⟩ :=
      exists_of_mem_merge hparsers htypeUrls (List.mem_map_of_mem he)
    rw [compiledFiles_eq hfiles]
    exact notes_append (mem_jsPaths_iff.2 ⟨f, hf, hpath⟩) e.2
  · unfold resolveImports
    refine .bind (.demand_bind fun files hfiles => ?_) fun _ => Session.notes_pure _
    rw [compiledFiles_eq (wanted_eq_ok_iff.1 (failing_eq_ok.1 hfiles))]
    exact (Session.Notes.mapM fun item => notes_resolveCompiled).bind fun _ => Session.notes_pure _

/-! ## Files without types -/

/-- Nothing but the resolution of its imports happens to the file at the end of a path. It is resolved
when the path leads there in the end. -/
structure OnlyResolves (r : Resolver) (t : FileTree) (p : Path) (u : FileTree) : Prop where
  absent : (∀ old, t.find? (t.destination p) ≠ some (.file old)) →
    ∀ new, u.find? (t.destination p) ≠ some (.file new)
  resolved : ∀ old, t.find? (t.destination p) = some (.file old) → u.isPresent p = true →
    ∃ new, r.rewrite p.parent old = .ok new ∧ u.find? (t.destination p) = some (.file new)
  unresolved : ∀ old, t.find? (t.destination p) = some (.file old) → u.isPresent p = false →
    u.find? (t.destination p) = some (.file old)
  present : ∀ old, t.nodeAt? p = some (.file old) →
    ∃ new, r.rewrite p.parent old = .ok new ∧ u.nodeAt? p = some (.file new)

section

variable (hpath : g.jsPath f = .ok p)
  (hplace : w.files.destination p ∉ (g.jsPaths (before ++ after)).map w.files.destination)
include hpath hplace

/-- The imports of a compiled file with a place of its own are resolved once. -/
theorem resolves_of_mapM {results : List (Option Path)}
    (h : ((before ++ some f :: after).mapM g.resolveCompiled).run w = (.ok results, w')) :
    if w.files.isPresent p then
      ∃ old new, w.files.find? (w.files.destination p) = some (.file old) ∧
        (g.resolver w'.files).rewrite p.parent old = .ok new ∧
        w'.files.find? (w.files.destination p) = some (.file new)
    else w'.files.find? (w.files.destination p) = w.files.find? (w.files.destination p) := by
  rw [jsPaths, List.filterMap_append, List.map_append, List.mem_append, not_or] at hplace
  have hshape := sameShape_of_mapM h
  rw [List.mapM_append] at h
  obtain ⟨_, u, hbefore, h⟩ := Session.run_bind_eq_ok.1 h
  obtain ⟨_, v, hrest, h⟩ := Session.run_bind_eq_ok.1 h
  cases h
  rw [List.mapM_cons] at hrest
  obtain ⟨_, v, hthis, hrest⟩ := Session.run_bind_eq_ok.1 hrest
  obtain ⟨_, _, hafter, hrest⟩ := Session.run_bind_eq_ok.1 hrest
  cases hrest
  have hstart := sameShape_of_mapM hbefore
  have hend := hstart.trans (sameShape_of_resolveCompiled hthis)
  obtain ⟨_, path, hitem, hpath', hrewrites⟩ := resolveCompiled_rewrites hthis
  cases hitem
  obtain rfl := Except.ok.inj (hpath.symm.trans hpath')
  rw [hstart.isPresent, resolver_eq hstart] at hrewrites
  have hfirst := find?_of_mapM hbefore hplace.1
  have hlast : w'.files.find? (w.files.destination p) = v.files.find? (w.files.destination p) :=
    find?_of_mapM hafter (by rw [funext hend.destination]; exact hplace.2)
  rw [resolver_eq hshape, hlast, ← hfirst]
  split at hrewrites
  · rename_i hthere
    have htext := hrewrites.text
    rw [hstart.destination] at htext
    rwa [if_pos hthere]
  · rename_i hmissing
    rw [if_neg hmissing, hrewrites]

/-- A run does nothing but resolve imports to the compiled file of a file without types, if it has a
place of its own. -/
theorem onlyResolves_of_run (hfiles : s.files = some (before ++ some f :: after))
    (hany : ¬f.DeclaresAny) (h : (g.run s).run w = (.ok (), w')) :
    OnlyResolves (g.resolver w'.files) w.files p w'.files := by
  have hwhole := grows_of_run h
  obtain ⟨files, paths, next, results, hfiles', hpaths, hgrows, hresults⟩ := exists_grows_of_run h
  obtain rfl := Option.some.inj (hfiles'.symm.trans hfiles)
  -- the code of no file goes there, nor is it the place of the index
  have hplaces : w.files.destination p ∉
      paths.map w.files.destination ++ [w.files.destination g.indexPath] := by
    rw [List.mem_append, List.mem_singleton, not_or]
    refine ⟨fun hmem => ?_, destination_jsPath_ne hpath w.files⟩
    obtain ⟨q, hq, heq⟩ := List.mem_map.1 hmem
    obtain ⟨f', hf', hany', hpath'⟩ := (hpaths q).1 hq
    have hne : some f' ≠ some f := by
      rintro hsame
      cases hsame
      exact hany hany'
    have hother : some f' ∈ before ++ after := by
      simpa [hne] using hf'
    rw [← heq] at hplace
    exact hplace (List.mem_map_of_mem (mem_jsPaths_iff.2 ⟨f', hother, hpath'⟩))
  have hkept : ∀ text, next.files.find? (w.files.destination p) = some (.file text) ↔
      w.files.find? (w.files.destination p) = some (.file text) := fun _ => hgrows.file_iff hplaces
  rw [← funext hgrows.destination] at hplace
  have hresolves := resolves_of_mapM hpath hplace hresults
  rw [hgrows.destination, ← (sameShape_of_mapM hresults).isPresent] at hresolves
  have hresolved : ∀ old, w.files.find? (w.files.destination p) = some (.file old) →
      w'.files.isPresent p = true → ∃ new, (g.resolver w'.files).rewrite p.parent old = .ok new ∧
        w'.files.find? (w.files.destination p) = some (.file new) := by
    intro old hold hthere
    rw [if_pos hthere] at hresolves
    obtain ⟨old', new, hold', hnew, htext⟩ := hresolves
    rw [hkept, hold, Option.some.injEq, Node.file.injEq] at hold'
    rw [← hold'] at hnew
    exact ⟨new, hnew, htext⟩
  refine ⟨fun hnone new hnew => ?_, hresolved, fun old hold hmissing => ?_, fun old hold => ?_⟩
  · split at hresolves
    · obtain ⟨old, _, hold, -⟩ := hresolves
      exact hnone old ((hkept old).1 hold)
    · rw [hresolves, hkept] at hnew
      exact hnone new hnew
  · rw [hmissing] at hresolves
    rw [hresolves, hkept]
    exact hold
  · obtain ⟨kept, hkeeps, -⟩ := hwhole.nodeAt? hold
    have hthere : w'.files.isPresent p = true := by
      rw [isPresent, hkeeps]
      rfl
    obtain ⟨new, hnew, htext⟩ := hresolved old (nodeAt?_eq_some_iff.1 hold).1 hthere
    have hfound := (nodeAt?_eq_some_iff.1 hkeeps).1
    rw [hwhole.destination, htext] at hfound
    exact ⟨new, hnew, hkeeps.trans hfound.symm⟩

end

/-! ## Runs -/

/-- What a run does to a workspace: it removes nothing, and of the files it touches only the index and
the compiled files. -/
structure Touches (g : Generation) (s : FileSet) (w w' : Workspace) : Prop where
  keeps : ∀ l node, w.files.find? l = some node →
    ∃ kept, w'.files.find? l = some kept ∧ kept.isDirectory = node.isDirectory
  other : ∀ l, l ≠ w.files.destination g.indexPath →
    (∀ p ∈ g.compiledFiles s, l ≠ w.files.destination p) →
    ∀ text, w'.files.find? l = some (.file text) ↔ w.files.find? l = some (.file text)
  index : ∃ text, s.renderIndex = .ok text ∧
    w'.files.find? (w.files.destination g.indexPath) = some (.file text)
  edited : ∃ more, w'.records = w.records ++ more ∧
    ∀ record ∈ more, ∀ p, record.edited? = some p → p ∈ g.compiledFiles s
  apart : ∀ p ∈ g.compiledFiles s, w.files.destination p ≠ w.files.destination g.indexPath
  blank : ∀ before f after p, s.files = some (before ++ some f :: after) → ¬f.DeclaresAny →
    g.jsPath f = .ok p →
    (∀ q ∈ g.jsPaths (before ++ after), w.files.destination p ≠ w.files.destination q) →
    OnlyResolves (g.resolver w'.files) w.files p w'.files

/-- A run that completes removes nothing. Of the files it touches only the index and the compiled
files. The index is written and neither appended to nor resolved; of a file without types that has a
compiled file of its own only the imports are resolved, if this file is there. -/
theorem run_touches (h : (g.run s).run w = (.ok (), w')) : Touches g s w w' := by
  have hgrows := grows_of_run h
  obtain ⟨files, _, _, _, hfiles, -⟩ := exists_grows_of_run h
  refine ⟨hgrows.keeps, fun l hindex hcompiled text => hgrows.file_iff ?_, index_of_run hfiles h,
    g.notes_run s w _ w' h, fun p hp => ?_, fun before f after p hset hany hpath hplace => ?_⟩
  · rw [List.mem_cons, not_or]
    refine ⟨hindex, fun hmem => ?_⟩
    obtain ⟨p, hp, heq⟩ := List.mem_map.1 hmem
    exact hcompiled p hp heq.symm
  · rw [compiledFiles_eq hfiles] at hp
    obtain ⟨f, -, hpath⟩ := mem_jsPaths_iff.1 hp
    exact destination_jsPath_ne hpath w.files
  · refine onlyResolves_of_run hpath (fun hmem => ?_) hset hany h
    obtain ⟨q, hq, heq⟩ := List.mem_map.1 hmem
    exact hplace q hq heq.symm

/-! ### A file without types, beside other files -/

/-- A schema file that declares nothing. -/
def blankFile : File := { name := some "blank.proto" }

/-- The set of this file and of one with an enum. -/
def stateAndBlank : FileSet := ⟨some [some stateFile, some blankFile]⟩

/-- A file that no generation knows of, an old index, and a compiled file to be resolved. -/
def notesTree : FileTree where
  nodes := [(["notes.txt"], .file "notes"), (["js"], .directory), (["js", "index.js"], .file "old"),
    (["js", "blank_pb.js"], .file "let a = require('./a_pb.js');\n")]

theorem run_stateAndBlank :
    ∃ w', (taskGeneration.run stateAndBlank).run { files := notesTree } = (.ok (), w') :=
  exists_run_of_isOk (by decide +kernel)

theorem run_touches_notes : ∃ w',
    (taskGeneration.run stateAndBlank).run { files := notesTree } = (.ok (), w') ∧
      w'.files.find? ["notes.txt"] = some (.file "notes") ∧
      OnlyResolves (taskGeneration.resolver w'.files) notesTree ⟨.here, ["js", "blank_pb.js"]⟩
        w'.files := by
  obtain ⟨w', hrun⟩ := run_stateAndBlank
  have htouches := run_touches hrun
  refine ⟨w', hrun, ?_, ?_⟩
  · exact (htouches.other ["notes.txt"] (by decide +kernel) (by decide +kernel) _).2 rfl
  · exact htouches.blank [some stateFile] blankFile [] _ rfl (by decide) (by decide +kernel)
      (by decide +kernel)

end Protogen.Generation
