import Protogen.Proofs.Generation.Completed
import Protogen.Proofs.Import.Rewrite

/-!
# Compiled files with resolved imports

The resolution of imports changes texts, and never which files there are: so every file is resolved
as if it were the only one.

* `resolveCompiled_rewrites` is what the resolution of a compiled file does to a tree; `of_finish` is
  where a run resolves them.
* `Rewritten` are trees before and after the resolution of several files, in terms of each of them;
  `rewritten_of_mapM` is the resolution of the compiled files of a set, if they lead to different
  places.
* `find?_of_rewritten`: it does not matter in which order the files are resolved.
-/

set_option autoImplicit false

namespace Protogen

open Schema FileTree

namespace Generation

open Import

variable {g : Generation} {s : FileSet} {w w' : Workspace} {t t' u u' : FileTree}
variable {r : Resolver} {path : Path} {paths paths' : List Path} {l : Location}

/-- The resolver of a generation on a tree. -/
def resolver (g : Generation) (t : FileTree) : Resolver :=
  resolverFor t (g.generatedRoot.getD g.jsRoot) g.modules

theorem resolver_eq (h : SameShape t u) : g.resolver u = g.resolver t := h.resolverFor _ _

/-- The imports of a compiled file are resolved if it is there; otherwise nothing is done. -/
theorem resolveCompiled_rewrites {item : Option File} {changed : Option Path}
    (h : (g.resolveCompiled item).run w = (.ok changed, w')) :
    ∃ f path, item = some f ∧ g.jsPath f = .ok path ∧
      if w.files.isPresent path then Rewrites (g.resolver w.files) w.files path w'.files
      else w'.files = w.files := by
  obtain ⟨f, _, hdemand, h⟩ := Session.run_bind_eq_ok.1 h
  obtain ⟨hf, rfl⟩ := Session.run_demand_eq_ok.1 hdemand
  obtain ⟨path, _, hdemand, h⟩ := Session.run_bind_eq_ok.1 h
  obtain ⟨hpath, rfl⟩ := Session.run_demand_eq_ok.1 hdemand
  obtain ⟨found, _, hfound, h⟩ := Session.run_bind_eq_ok.1 h
  obtain ⟨rfl, hthere⟩ := Session.of_run_isPresent hfound
  refine ⟨f, path, declared_eq_ok_iff.1 (failing_eq_ok.1 hf), failing_eq_ok.1 hpath, ?_⟩
  rw [← hthere]
  split at h
  · rename_i hfound
    obtain ⟨changed, _, hresolve, h⟩ := Session.run_bind_eq_ok.1 h
    cases h
    rw [if_pos hfound]
    exact resolveFile_rewrites hresolve
  · rename_i hmissing
    cases h
    rw [if_neg hmissing]

theorem sameShape_of_resolveCompiled {item : Option File} {changed : Option Path}
    (h : (g.resolveCompiled item).run w = (.ok changed, w')) : SameShape w.files w'.files := by
  obtain ⟨f, path, -, -, hrewrites⟩ := resolveCompiled_rewrites h
  split at hrewrites
  · exact hrewrites.sameShape
  · rw [hrewrites]
    exact .refl _

theorem sameShape_of_mapM {items : List (Option File)} {results : List (Option Path)}
    (h : (items.mapM g.resolveCompiled).run w = (.ok results, w')) : SameShape w.files w'.files :=
  Session.of_run_mapM (R := fun v v' => SameShape v.files v'.files) (fun v => .refl v.files)
    (fun h h' => h.trans h') (fun _ _ _ _ hstep => sameShape_of_resolveCompiled hstep) h

/-- The steps of a run behind the appending. -/
theorem of_finish {files : List (Option File)} (hfiles : s.files = some files)
    (h : (g.finish s).run w = (.ok (), w')) :
    ∃ path v results, (g.writeIndex s).run w = (.ok path, v) ∧
      (files.mapM g.resolveCompiled).run v = (.ok results, w') := by
  obtain ⟨path, v, hindex, h⟩ := Session.run_bind_eq_ok.1 h
  obtain ⟨_, _, himports, h⟩ := Session.run_bind_eq_ok.1 h
  cases h
  obtain ⟨list, _, hdemand, himports⟩ := Session.run_bind_eq_ok.1 himports
  obtain ⟨hlist, rfl⟩ := Session.run_demand_eq_ok.1 hdemand
  have hset : s.files = some list := wanted_eq_ok_iff.1 (failing_eq_ok.1 hlist)
  obtain rfl := Option.some.inj (hfiles.symm.trans hset)
  obtain ⟨results, _, hresults, himports⟩ := Session.run_bind_eq_ok.1 himports
  cases himports
  exact ⟨path, v, results, hindex, hresults⟩

theorem destination_of_finish {files : List (Option File)} (hfiles : s.files = some files)
    (h : (g.finish s).run w = (.ok (), w')) : w'.files.destination = w.files.destination := by
  obtain ⟨_, v, _, hindex, hresults⟩ := of_finish hfiles h
  have hdirectory := (sameShape_of_mapM hresults).workingDirectory
  exact funext (destination_eq_of_workingDirectory (hdirectory.trans (content_writeIndex hindex).1))

/-- One tree is the other one with the imports of all files of some paths resolved, as far as they
are there. -/
structure Rewritten (r : Resolver) (t : FileTree) (paths : List Path) (u : FileTree) : Prop where
  sameShape : SameShape t u
  other : ∀ l, l ∉ paths.map t.destination → u.find? l = t.find? l
  missing : ∀ p ∈ paths, t.isPresent p = false →
    u.find? (t.destination p) = t.find? (t.destination p)
  text : ∀ p ∈ paths, t.isPresent p = true →
    ∃ old new, t.find? (t.destination p) = some (.file old) ∧
      r.rewrite p.parent old = .ok new ∧ u.find? (t.destination p) = some (.file new)

/-- One file, and then others, if it has a place of its own. -/
theorem Rewritten.cons {v : FileTree}
    (hfirst : if t.isPresent path then Rewrites r t path v else v = t)
    (hrest : Rewritten r v paths u) (hfree : t.destination path ∉ paths.map t.destination) :
    Rewritten r t (path :: paths) u := by
  obtain ⟨hshape, hother⟩ : SameShape t v ∧ ∀ l, l ≠ t.destination path → v.find? l = t.find? l := by
    split at hfirst
    · exact ⟨hfirst.sameShape, hfirst.other⟩
    · rw [hfirst]
      exact ⟨.refl t, fun _ _ => rfl⟩
  have hdestination : v.destination = t.destination := funext hshape.destination
  have hrestOther := hrest.other
  have hrestMissing := hrest.missing
  have hrestText := hrest.text
  simp only [hdestination, hshape.isPresent] at hrestOther hrestMissing hrestText
  have hkept := hrestOther _ hfree
  have hplace : ∀ p ∈ paths, v.find? (t.destination p) = t.find? (t.destination p) := by
    intro p hp
    refine hother _ fun heq => hfree ?_
    rw [← heq]
    exact List.mem_map_of_mem hp
  refine ⟨hshape.trans hrest.sameShape, fun l hl => ?_, ?_, ?_⟩
  · rw [List.map_cons, List.mem_cons, not_or] at hl
    rw [hrestOther l hl.2, hother l hl.1]
  · refine List.forall_mem_cons.2 ⟨fun hmissing => ?_, fun p hp hmissing => ?_⟩
    · rw [hmissing] at hfirst
      rw [hkept, hfirst]
    · rw [hrestMissing p hp hmissing, hplace p hp]
  · refine List.forall_mem_cons.2 ⟨fun hthere => ?_, fun p hp hthere => ?_⟩
    · rw [hthere] at hfirst
      rw [hkept]
      exact hfirst.text
    · rw [← hplace p hp]
      exact hrestText p hp hthere

/-- The paths of the compiled files, as far as the files have names. -/
def jsPaths (g : Generation) (items : List (Option File)) : List Path :=
  items.filterMap fun item => ((declared item).bind g.jsPath).toOption

theorem jsPaths_cons {f : File} (h : g.jsPath f = .ok path) (items : List (Option File)) :
    g.jsPaths (some f :: items) = path :: g.jsPaths items := by
  unfold jsPaths
  rw [List.filterMap_cons_some]
  rw [declared, Except.bind, h]
  rfl

/-- Imports are resolved in compiled files only. -/
theorem find?_of_mapM {items : List (Option File)} {results : List (Option Path)}
    (h : (items.mapM g.resolveCompiled).run w = (.ok results, w'))
    (hl : l ∉ (g.jsPaths items).map w.files.destination) : w'.files.find? l = w.files.find? l := by
  induction items generalizing w results with
  | nil =>
    cases h
    rfl
  | cons item items ih =>
    rw [List.mapM_cons] at h
    obtain ⟨_, next, hfirst, h⟩ := Session.run_bind_eq_ok.1 h
    obtain ⟨rest, _, hrest, h⟩ := Session.run_bind_eq_ok.1 h
    cases h
    obtain ⟨f, path, rfl, hpath, hrewrites⟩ := resolveCompiled_rewrites hfirst
    rw [jsPaths_cons hpath, List.map_cons, List.mem_cons, not_or] at hl
    have hdestination := (sameShape_of_resolveCompiled hfirst).destination
    rw [ih hrest (by rw [funext hdestination]; exact hl.2)]
    split at hrewrites
    · exact hrewrites.other l hl.1
    · rw [hrewrites]

/-- The compiled files of a set are resolved each for itself if they lead to different places. -/
theorem rewritten_of_mapM {items : List (Option File)} {results : List (Option Path)}
    (h : (items.mapM g.resolveCompiled).run w = (.ok results, w'))
    (hplaces : ((g.jsPaths items).map w.files.destination).Nodup) :
    Rewritten (g.resolver w.files) w.files (g.jsPaths items) w'.files := by
  induction items generalizing w results with
  | nil =>
    cases h
    exact ⟨.refl _, fun _ _ => rfl, by simp [jsPaths], by simp [jsPaths]⟩
  | cons item items ih =>
    rw [List.mapM_cons] at h
    obtain ⟨_, v, hfirst, h⟩ := Session.run_bind_eq_ok.1 h
    obtain ⟨rest, _, hrest, h⟩ := Session.run_bind_eq_ok.1 h
    cases h
    obtain ⟨f, path, rfl, hpath, hrewrites⟩ := resolveCompiled_rewrites hfirst
    rw [jsPaths_cons hpath] at hplaces ⊢
    obtain ⟨hfree, hplaces⟩ := List.nodup_cons.1 hplaces
    have hshape := sameShape_of_resolveCompiled hfirst
    have hdestination : v.files.destination = w.files.destination := funext hshape.destination
    have hothers := ih hrest (by rw [hdestination]; exact hplaces)
    rw [resolver_eq hshape] at hothers
    exact .cons hrewrites hothers hfree

/-- Files of which the texts agree have the same texts when their imports are resolved, in whatever
order. -/
theorem find?_of_rewritten (h : Rewritten r t paths u) (h' : Rewritten r t' paths' u')
    (hshape : SameShape t t') (hperm : paths.Perm paths') {l : Location}
    (hl : t'.find? l = t.find? l) : u'.find? l = u.find? l := by
  have hmem : l ∈ paths'.map t'.destination ↔ l ∈ paths.map t.destination := by
    rw [funext hshape.destination]
    exact (hperm.map t.destination).mem_iff.symm
  by_cases hplace : l ∈ paths.map t.destination
  · obtain ⟨p, hp, rfl⟩ := List.mem_map.1 hplace
    have hp' := hperm.mem_iff.1 hp
    cases hpresent : t.isPresent p with
    | false =>
      have hmissing := h'.missing p hp' (by rw [hshape.isPresent, hpresent])
      rw [hshape.destination] at hmissing
      rw [hmissing, hl, h.missing p hp hpresent]
    | true =>
      obtain ⟨old, new, hold, hnew, htext⟩ := h.text p hp hpresent
      obtain ⟨old', new', hold', hnew', htext'⟩ :=
        h'.text p hp' (by rw [hshape.isPresent, hpresent])
      rw [hshape.destination] at hold' htext'
      -- the same text was resolved in the same directory
      rw [hl, hold, Option.some.injEq, Node.file.injEq] at hold'
      rw [← hold', hnew, Except.ok.injEq] at hnew'
      rw [htext', htext, hnew']
  · rw [h'.other l (mt hmem.1 hplace), hl, h.other l hplace]

end Generation

end Protogen
