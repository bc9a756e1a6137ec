import Protogen.Proofs.FileTree.Alike
import Protogen.Proofs.FileTree.Room
import Protogen.Proofs.Generation.Appended

/-!
# Storing several files

* `stored_of_run_append` is what the appending of a text does to a tree, `stored_of_writeIndex` the
  writing of the index.
* `Takes` says when texts can be appended to the files of some paths, in any order and any number of
  texts for each; `Filed` is the tree with the texts.
* `filed_of_run` and `run_of_takes`: a list of texts is appended if its paths can take them.
* `sameNodes_of_filed` and `sameNodes_of_run`: the tree depends on the paths and on what is appended
  to each of them, not on how the texts are put together.
-/

set_option autoImplicit false

namespace Protogen.Generation

open Schema FileTree

variable {t u v : FileTree} {p : Path} {text : String} {r r' : Rendered} {w w' : Workspace}

/-! ## One text -/

theorem stored_of_run_append (h : (append p text).run w = (.ok (), w')) :
    Accepts w.files p ∧ Stored w.files p (· ++ text) w'.files := by
  obtain ⟨_, made, hmade, h⟩ := Session.run_bind_eq_ok.1 h
  obtain ⟨_, next, hstored, h⟩ := Session.run_bind_eq_ok.1 h
  obtain rfl := Session.run_note_eq_ok.1 h
  exact accepts_of_modifyText (Session.files_of_run_makeDirectories hmade)
    (Session.files_of_run_change hstored)

theorem run_append {made files : FileTree}
    (hmade : w.files.makeDirectories p.parent = (.ok (), made))
    (hfiles : made.appendText p text = .ok files) :
    (append p text).run w = (.ok (), { files := files, records := w.records ++ [.appended p] }) :=
  Session.run_bind_eq_ok.2 ⟨(), _, Session.run_makeDirectories hmade,
    Session.run_bind_eq_ok.2 ⟨(), _, Session.run_change hfiles, Session.run_note ..⟩⟩

theorem exists_run_append (h : Accepts w.files p) (text : String) :
    ∃ w', (append p text).run w = (.ok (), w') := by
  obtain ⟨made, files, hmade, hfiles⟩ := exists_modifyText h (· ++ text)
  exact ⟨_, run_append hmade hfiles⟩

/-! ## The index -/

/-- The path of the index. -/
def indexPath (g : Generation) : Path := g.jsRoot.join (Path.read indexFile)

theorem stored_of_writeIndex {g : Generation} {s : FileSet} {path : Path}
    (h : (g.writeIndex s).run w = (.ok path, w')) :
    ∃ text, s.renderIndex = .ok text ∧ Accepts w.files g.indexPath ∧
      Stored w.files g.indexPath (fun _ => text) w'.files := by
  obtain ⟨_, made, hmade, h⟩ := Session.run_bind_eq_ok.1 h
  obtain ⟨text, _, hdemand, h⟩ := Session.run_bind_eq_ok.1 h
  obtain ⟨htext, rfl⟩ := Session.run_demand_eq_ok.1 hdemand
  obtain ⟨_, written, hwritten, h⟩ := Session.run_bind_eq_ok.1 h
  obtain ⟨_, _, hnote, h⟩ := Session.run_bind_eq_ok.1 h
  obtain rfl := Session.run_note_eq_ok.1 hnote
  cases h
  exact ⟨text, failing_eq_ok.1 htext,
    accepts_of_modifyText (Session.files_of_run_makeDirectories hmade)
      (Session.files_of_run_change hwritten)⟩

theorem run_writeIndex {g : Generation} {s : FileSet} {made files : FileTree}
    (hmade : w.files.makeDirectories g.indexPath.parent = (.ok (), made))
    (htext : s.renderIndex = .ok text) (hfiles : made.writeText g.indexPath text = .ok files) :
    (g.writeIndex s).run w =
      (.ok g.indexPath, { files := files, records := w.records ++ [.wroteIndex g.indexPath] }) := by
  refine Session.run_bind_eq_ok.2 ⟨(), _, Session.run_makeDirectories hmade, ?_⟩
  refine Session.run_bind_eq_ok.2 ⟨text, _, Session.run_demand_eq_ok.2 ⟨failing_eq_ok.2 htext, rfl⟩, ?_⟩
  refine Session.run_bind_eq_ok.2 ⟨(), _, Session.run_change hfiles, ?_⟩
  exact Session.run_bind_eq_ok.2 ⟨(), _, Session.run_note .., rfl⟩

/-! ## Several texts -/

/-- Texts can be appended at the ends of paths: no path is too long, no directory is where one of
them leads and no file on their ways, and none leads to where directories are made for another. -/
structure Takes (t : FileTree) (paths : List Path) : Prop where
  short : ∀ p ∈ paths, IsShort p
  free : ∀ p ∈ paths, t.find? (t.destination p) ≠ some .directory
  clear : ∀ p ∈ paths, ∀ l ∈ t.way p.parent, ∀ text, t.find? l ≠ some (.file text)
  apart : ∀ p ∈ paths, ∀ q ∈ paths, t.destination p ∉ t.way q.parent

/-- The second tree is the first one with the texts behind what is stored where their paths lead,
and with directories on the ways there. -/
structure Filed (t : FileTree) (r : Rendered) (u : FileTree) : Prop where
  workingDirectory : u.workingDirectory = t.workingDirectory
  directory : ∀ e ∈ r, ∀ l ∈ t.way e.1.parent, u.find? l = some .directory
  file : ∀ e ∈ r, u.find? (t.destination e.1) =
    some (.file (t.content (t.destination e.1) ++
      String.join (Rendered.textsAt t.destination (t.destination e.1) r)))
  other : ∀ l, (∀ e ∈ r, l ∉ t.way e.1.parent ∧ l ≠ t.destination e.1) → u.find? l = t.find? l

namespace Takes

variable {paths : List Path} {f : String → String}

/-- A path that can take a text, and others that can when it has. -/
theorem cons (haccepts : Accepts t p) (hstored : Stored t p f u) (h : Takes u paths) :
    Takes t (p :: paths) := by
  have hdestination := hstored.destination
  have hway := hstored.way
  have hup : ∀ l ∈ t.way p.parent, u.find? l = some .directory :=
    fun l hl => hstored.directory haccepts.apart hl
  -- what holds of the path itself and of the others
  have hshort := h.short
  have hfree := h.free
  have hclear := h.clear
  have hapart := h.apart
  simp only [hdestination, hway] at hfree hclear hapart
  have hnotUp : ∀ q ∈ paths, t.destination q ∉ t.way p.parent :=
    fun q hq hmem => hfree q hq (hup _ hmem)
  have hnotHere : ∀ q ∈ paths, t.destination p ∉ t.way q.parent :=
    fun q hq hmem => hclear q hq _ hmem _ hstored.file
  refine ⟨List.forall_mem_cons.2 ⟨haccepts.short, hshort⟩, ?_, ?_, ?_⟩
  · refine List.forall_mem_cons.2 ⟨haccepts.free, fun q hq => ?_⟩
    by_cases hqp : t.destination q = t.destination p
    · rw [hqp]
      exact haccepts.free
    · rw [← hstored.other hqp (hnotUp q hq)]
      exact hfree q hq
  · refine List.forall_mem_cons.2 ⟨haccepts.parent.way, fun q hq l hl text => ?_⟩
    by_cases hlp : l ∈ t.way p.parent
    · exact haccepts.parent.way l hlp text
    · have hne : l ≠ t.destination p := fun heq => hnotHere q hq (heq ▸ hl)
      rw [← hstored.other hne hlp]
      exact hclear q hq l hl text
  · refine List.forall_mem_cons.2 ⟨List.forall_mem_cons.2 ⟨haccepts.apart, hnotHere⟩, ?_⟩
    exact fun q hq => List.forall_mem_cons.2 ⟨hnotUp q hq, hapart q hq⟩

/-- What paths can take, they still can when one of them has. -/
theorem tail (h : Takes t (p :: paths)) (hstored : Stored t p f u) : Takes u paths := by
  have hhere : p ∈ p :: paths := List.mem_cons_self ..
  have hthere : ∀ q ∈ paths, q ∈ p :: paths := fun q hq => List.mem_cons_of_mem _ hq
  have hup : ∀ l ∈ t.way p.parent, u.find? l = some .directory :=
    fun l hl => hstored.directory (h.apart p hhere p hhere) hl
  refine ⟨fun q hq => h.short q (hthere q hq), fun q hq => ?_, fun q hq l hl text => ?_,
    fun q hq q' hq' => ?_⟩
  · rw [hstored.destination]
    by_cases hqp : t.destination q = t.destination p
    · rw [hqp, hstored.file]
      simp
    · rw [hstored.other hqp (h.apart q (hthere q hq) p hhere)]
      exact h.free q (hthere q hq)
  · rw [hstored.way] at hl
    by_cases hlp : l ∈ t.way p.parent
    · rw [hup l hlp]
      simp
    · have hne : l ≠ t.destination p := fun heq => h.apart p hhere q (hthere q hq) (heq ▸ hl)
      rw [hstored.other hne hlp]
      exact h.clear q (hthere q hq) l hl text
  · rw [hstored.destination, hstored.way]
    exact h.apart q (hthere q hq) q' (hthere q' hq')

theorem accepts (h : Takes t paths) (hp : p ∈ paths)
    (horigin : t.find? (t.origin p) = some .directory) : Accepts t p :=
  ⟨h.short p hp, ⟨(h.short p hp).parent, horigin, h.clear p hp⟩, h.free p hp, h.apart p hp p hp⟩

end Takes

/-- One text, and then others. -/
theorem Filed.cons (haccepts : Accepts t p) (hstored : Stored t p (· ++ text) u)
    (htakes : Takes u (r.map Prod.fst)) (h : Filed u r v) : Filed t ((p, text) :: r) v := by
  have hdestination : u.destination = t.destination := funext hstored.destination
  have hall := htakes.cons haccepts hstored
  have hhere : p ∈ p :: r.map Prod.fst := List.mem_cons_self ..
  have hthere : ∀ e ∈ r, e.1 ∈ p :: r.map Prod.fst :=
    fun e he => List.mem_cons_of_mem _ (List.mem_map_of_mem he)
  have hdirectory := h.directory
  have hfile := h.file
  have hother := h.other
  simp only [hstored.way, hdestination] at hdirectory hfile hother
  -- the texts at a place are the one at hand and those of the others
  have htexts : ∀ l, l ∉ t.way p.parent →
      u.content l ++ String.join (Rendered.textsAt t.destination l r) =
        t.content l ++ String.join (Rendered.textsAt t.destination l ((p, text) :: r)) := by
    intro l hl
    rw [Rendered.textsAt_cons]
    by_cases hlp : l = t.destination p
    · rw [hlp, content_of_file hstored.file, if_pos rfl, String.join_cons, String.append_assoc]
    · rw [if_neg (Ne.symm hlp), content, hstored.other hlp hl]
      rfl
  refine ⟨hstored.workingDirectory ▸ h.workingDirectory, ?_, fun e he => ?_, fun l hl => ?_⟩
  · refine List.forall_mem_cons.2 ⟨fun l hl => ?_, hdirectory⟩
    by_cases hway : ∃ e ∈ r, l ∈ t.way e.1.parent
    · obtain ⟨e, he, hmem⟩ := hway
      exact hdirectory e he l hmem
    · rw [hother l fun e he => ⟨fun hmem => hway ⟨e, he, hmem⟩, ?_⟩]
      · exact hstored.directory haccepts.apart hl
      · rintro rfl
        exact hall.apart e.1 (hthere e he) p hhere hl
  · have hmem : e.1 ∈ p :: r.map Prod.fst := List.mem_map_of_mem (f := Prod.fst) he
    rw [← htexts _ (hall.apart e.1 hmem p hhere)]
    by_cases hrest : ∃ e' ∈ r, t.destination e'.1 = t.destination e.1
    · obtain ⟨e', he', heq⟩ := hrest
      rw [← heq]
      exact hfile e' he'
    · -- only the first text goes there
      obtain rfl : e = (p, text) :=
        (List.mem_cons.1 he).resolve_right fun he' => hrest ⟨e, he', rfl⟩
      have hnone : Rendered.textsAt t.destination (t.destination p) r = [] := by
        rw [List.eq_nil_iff_forall_not_mem]
        intro text' htext'
        obtain ⟨q, hq, hmem'⟩ := Rendered.mem_textsAt_iff.1 htext'
        exact hrest ⟨(q, text'), hmem', hq⟩
      rw [hnone, String.join_nil, String.append_empty, content_of_file hstored.file, hother]
      · exact hstored.file
      · refine fun e' he' => ⟨fun hway => ?_, fun heq => hrest ⟨e', he', heq.symm⟩⟩
        exact hall.apart p hhere e'.1 (hthere e' he') hway
  · obtain ⟨hup, hne⟩ := hl (p, text) (List.mem_cons_self ..)
    rw [hother l fun e he => hl e (List.mem_cons_of_mem _ he)]
    exact hstored.other hne hup

/-- What it means that texts are appended. -/
theorem filed_of_run (h : (r.forM fun e => append e.1 e.2).run w = (.ok (), w')) :
    Takes w.files (r.map Prod.fst) ∧ Filed w.files r w'.files := by
  induction r generalizing w with
  | nil =>
    cases h
    exact ⟨⟨by simp, by simp, by simp, by simp⟩, ⟨rfl, by simp, by simp, fun _ _ => rfl⟩⟩
  | cons e r ih =>
    obtain ⟨_, next, hfirst, h⟩ := Session.run_bind_eq_ok.1 h
    obtain ⟨haccepts, hstored⟩ := stored_of_run_append hfirst
    obtain ⟨htakes, hfiled⟩ := ih h
    exact ⟨htakes.cons haccepts hstored, hfiled.cons haccepts hstored htakes⟩

/-- Directories are on the way to a path for which there is a text, and the path is not too long. -/
theorem opened_of_appendCode {g : Generation} {s : FileSet} {path : Path}
    (h : (g.appendCode s).run w = (.ok (), w')) (hne : g.appended s path ≠ "") :
    IsShort path ∧ ∀ l ∈ w'.files.way path.parent, w'.files.find? l = some .directory := by
  obtain ⟨code, _, hdemand, happend⟩ := Session.run_bind_eq_ok.1 h
  obtain ⟨hcode, rfl⟩ := Session.run_demand_eq_ok.1 hdemand
  rw [appended, hcode] at hne
  have hmem := Rendered.mem_keys_of_textAt hne
  obtain ⟨htakes, hfiled⟩ := filed_of_run happend
  obtain ⟨e, he, hpath⟩ := List.mem_map.1 hmem
  refine ⟨htakes.short path hmem, ?_⟩
  rw [← hpath, way_eq_of_workingDirectory hfiled.workingDirectory]
  exact hfiled.directory e he

/-- Texts are appended wherever they can be. -/
theorem run_of_takes (h : Takes w.files (r.map Prod.fst))
    (horigin : ∀ e ∈ r, w.files.find? (w.files.origin e.1) = some .directory) :
    ∃ w', (r.forM fun e => append e.1 e.2).run w = (.ok (), w') := by
  induction r generalizing w with
  | nil => exact ⟨w, rfl⟩
  | cons e r ih =>
    have hhere : e ∈ e :: r := List.mem_cons_self ..
    have haccepts := h.accepts (List.mem_map_of_mem hhere) (horigin e hhere)
    obtain ⟨next, hfirst⟩ := exists_run_append haccepts e.2
    obtain ⟨-, hstored⟩ := stored_of_run_append hfirst
    have hstart : ∀ e' ∈ r, next.files.find? (next.files.origin e'.1) = some .directory := by
      intro e' he'
      have hmem : e' ∈ e :: r := List.mem_cons_of_mem _ he'
      have hsame : next.files.origin e'.1 = w.files.origin e'.1 := by
        rw [origin, origin, hstored.workingDirectory]
      rw [hsame]
      by_cases hway : w.files.origin e'.1 ∈ w.files.way e.1.parent
      · exact hstored.directory haccepts.apart hway
      · rw [hstored.other _ hway]
        · exact horigin e' hmem
        · -- no text is appended where a way starts
          intro heq
          have hfirst : w.files.origin e'.1 ∈ w.files.way e'.1.parent :=
            origin_mem_way w.files e'.1.parent
          rw [heq] at hfirst
          exact h.apart e.1 (List.mem_map_of_mem hhere) e'.1 (List.mem_map_of_mem hmem) hfirst
    obtain ⟨w', hrest⟩ := ih (h.tail hstored) hstart
    exact ⟨w', Session.run_bind_eq_ok.2 ⟨(), next, hfirst, hrest⟩⟩

/-- The same texts for the same paths leave the same nodes, however they are put together. -/
theorem sameNodes_of_filed (hr : Filed t r u) (hr' : Filed t r' v)
    (hpaths : ∀ p, p ∈ r.map Prod.fst ↔ p ∈ r'.map Prod.fst)
    (htexts : ∀ p ∈ r.map Prod.fst,
      String.join (Rendered.textsAt t.destination (t.destination p) r) =
        String.join (Rendered.textsAt t.destination (t.destination p) r')) :
    SameNodes u v := by
  have hmem : ∀ e ∈ r, ∃ e' ∈ r', e'.1 = e.1 := fun e he => by
    simpa using (hpaths e.1).1 (List.mem_map_of_mem he)
  have hmem' : ∀ e ∈ r', ∃ e' ∈ r, e'.1 = e.1 := fun e he => by
    simpa using (hpaths e.1).2 (List.mem_map_of_mem he)
  refine ⟨hr'.workingDirectory.trans hr.workingDirectory.symm, fun l => ?_⟩
  by_cases hway : ∃ e ∈ r, l ∈ t.way e.1.parent
  · obtain ⟨e, he, hl⟩ := hway
    obtain ⟨e', he', heq⟩ := hmem e he
    rw [hr.directory e he l hl, hr'.directory e' he' l (heq ▸ hl)]
  · by_cases hend : ∃ e ∈ r, l = t.destination e.1
    · obtain ⟨e, he, rfl⟩ := hend
      obtain ⟨e', he', heq⟩ := hmem e he
      rw [hr.file e he, htexts e.1 (List.mem_map_of_mem he), ← heq, hr'.file e' he']
    · rw [hr.other l fun e he => ⟨fun hl => hway ⟨e, he, hl⟩, fun hl => hend ⟨e, he, hl⟩⟩,
        hr'.other l fun e he => ?_]
      obtain ⟨e', he', heq⟩ := hmem' e he
      exact ⟨fun hl => hway ⟨e', he', heq ▸ hl⟩, fun hl => hend ⟨e', he', heq ▸ hl⟩⟩

/-- Two lists with the same texts for the same paths are appended alike, if the paths lead to
different places. -/
theorem sameNodes_of_run {v' : Workspace}
    (hpaths : ∀ p, p ∈ r.map Prod.fst ↔ p ∈ r'.map Prod.fst)
    (hplaces : ∀ p ∈ r.map Prod.fst, ∀ q ∈ r.map Prod.fst,
      w.files.destination q = w.files.destination p → q = p)
    (htexts : ∀ p, String.join (Rendered.textsAt id p r) = String.join (Rendered.textsAt id p r'))
    (h : (r.forM fun e => append e.1 e.2).run w = (.ok (), w'))
    (h' : (r'.forM fun e => append e.1 e.2).run w = (.ok (), v')) :
    SameNodes w'.files v'.files := by
  refine sameNodes_of_filed (filed_of_run h).2 (filed_of_run h').2 hpaths fun p hp => ?_
  -- only texts of the path itself go to its place
  have hplace : ∀ q ∈ r.map Prod.fst,
      (w.files.destination q = w.files.destination p ↔ id q = p) :=
    fun q hq => ⟨hplaces p hp q hq, fun heq => congrArg w.files.destination heq⟩
  rw [Rendered.textsAt_congr hplace,
    Rendered.textsAt_congr fun q hq => hplace q ((hpaths q).2 hq), htexts]

end Protogen.Generation
