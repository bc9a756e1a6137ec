import Protogen.Proofs.Generation.Appended
import Protogen.Proofs.Import.File
import Protogen.Proofs.Output.Index
import Protogen.Proofs.Path

/-!
# Completed runs

* `KeepsLines` compares two trees by the lines of their files that begin no import: the resolution
  of imports keeps them (`keepsLines_resolveImports`), and the index is no compiled file
  (`destination_jsPath_ne`), so all of them are in the compiled files to the end
  (`hasLine_of_finish`).
* `run_appends` is what a run that completes appends to each path, and when the parsers listed in
  the index are declared. Of two schema files with one compiled file, the code of one is lost
  (`run_appends_task`).
-/

set_option autoImplicit false

namespace Protogen

open Schema Text

variable {w w' v : Workspace}

namespace Naming

theorem isPart_compiled (stem : String) : Path.isPart (stem ++ compiledEnding) = true := by
  have hlength : 1 < (stem ++ compiledEnding).length := by
    have hending : compiledEnding.length = 6 := by decide
    rw [String.length_append]
    omega
  have hne : ∀ short : String, short.length ≤ 1 → stem ++ compiledEnding ≠ short := by
    intro short hshort heq
    rw [heq] at hlength
    omega
  simp [Path.isPart, hne "" (by decide), hne "." (by decide)]

/-- A compiled file is named like its schema file but for the last name. -/
theorem exists_split_jsFileName (name : String) :
    ∃ front last stem, Text.split '/' name = front ++ [last] ∧
      Text.split '/' (jsFileName name) = front ++ [stem ++ compiledEnding] := by
  unfold jsFileName
  split
  · rename_i stem hstem
    have hname : name = String.ofList stem ++ schemaEnding := by
      rw [← String.toList_inj, dropEnd?_eq_some_iff.1 hstem]
      simp
    obtain ⟨front, last, hsplit⟩ := Path.split_append (String.ofList stem)
    refine ⟨front, last ++ schemaEnding, last, ?_, hsplit (by decide)⟩
    rw [hname, hsplit (by decide)]
  · obtain ⟨front, last, hsplit⟩ := Path.split_append name
    have hname : Text.split '/' (name ++ "") = front ++ [last ++ ""] := hsplit (by simp)
    rw [String.append_empty, String.append_empty] at hname
    exact ⟨front, last, last, hname, hsplit (by decide)⟩

end Naming

namespace Generation

variable {g : Generation} {s : FileSet}

theorem keepsLines_resolveCompiled {item : Option File} {changed : Option Path}
    (h : (g.resolveCompiled item).run w = (.ok changed, w')) : KeepsLines w.files w'.files := by
  obtain ⟨f, _, hf, h⟩ := Session.run_bind_eq_ok.1 h
  obtain ⟨-, rfl⟩ := Session.run_demand_eq_ok.1 hf
  obtain ⟨path, _, hpath, h⟩ := Session.run_bind_eq_ok.1 h
  obtain ⟨-, rfl⟩ := Session.run_demand_eq_ok.1 hpath
  obtain ⟨found, _, hfound, h⟩ := Session.run_bind_eq_ok.1 h
  obtain ⟨rfl, -⟩ := Session.of_run_isPresent hfound
  split at h
  · obtain ⟨changed, _, hresolve, h⟩ := Session.run_bind_eq_ok.1 h
    cases h
    exact Import.keepsLines_resolveFile hresolve
  · cases h
    exact .refl _

theorem keepsLines_resolveImports {changed : List Path}
    (h : (g.resolveImports s).run w = (.ok changed, w')) : KeepsLines w.files w'.files := by
  obtain ⟨files, _, hfiles, h⟩ := Session.run_bind_eq_ok.1 h
  obtain ⟨-, rfl⟩ := Session.run_demand_eq_ok.1 hfiles
  obtain ⟨results, _, hresults, h⟩ := Session.run_bind_eq_ok.1 h
  cases h
  exact Session.of_run_mapM (R := fun v v' => KeepsLines v.files v'.files)
    (fun v => .refl v.files) (fun h h' => h.trans h')
    (fun _ _ _ _ hstep => keepsLines_resolveCompiled hstep) hresults

/-- A schema file of which the compiled file is missing, or has nothing to resolve. -/
def IsResolved (g : Generation) (t : FileTree) (item : Option File) : Prop :=
  ∃ f path, item = some f ∧ g.jsPath f = .ok path ∧ t.lookFault? path = none ∧
    (t.isPresent path = true → ∃ text, t.readText path = .ok text ∧
      (Import.resolverFor t (g.generatedRoot.getD g.jsRoot) g.modules).resolveText path.parent text =
        .ok text)

/-- Where a compiled file can be looked for, it is left to resolve it. -/
theorem run_resolveCompiled {f : File} {path : Path} {changed : Option Path}
    (hpath : g.jsPath f = .ok path) (hlook : w.files.lookFault? path = none)
    (h : (do
      if w.files.isPresent path then
        let changed ← Import.resolveFile (g.generatedRoot.getD g.jsRoot) g.modules path
        pure (if changed then some path else none)
      else pure none : Session (Option Path)).run w = (.ok changed, v)) :
    (g.resolveCompiled (some f)).run w = (.ok changed, v) := by
  have hdemand : (Session.demand (failing .nullPart (g.jsPath f))).run w = (.ok path, w) :=
    Session.run_demand_eq_ok.2 ⟨failing_eq_ok.2 hpath, rfl⟩
  refine Session.run_bind_eq_ok.2 ⟨f, w, rfl, Session.run_bind_eq_ok.2 ⟨path, w, hdemand, ?_⟩⟩
  exact Session.run_bind_eq_ok.2 ⟨_, w, Session.run_isPresent hlook, h⟩

theorem run_resolveCompiled_self {item : Option File} (h : g.IsResolved w.files item) :
    ∃ v, (g.resolveCompiled item).run w = (.ok none, v) ∧ v.files = w.files := by
  obtain ⟨f, path, rfl, hpath, hlook, htext⟩ := h
  cases hthere : w.files.isPresent path with
  | false =>
    refine ⟨w, run_resolveCompiled hpath hlook ?_, rfl⟩
    rw [hthere]
    rfl
  | true =>
    obtain ⟨text, hread, hself⟩ := htext hthere
    obtain ⟨v, hv, hsame⟩ := Import.run_resolveFile_self hread hself
    refine ⟨v, run_resolveCompiled hpath hlook ?_, hsame⟩
    rw [hthere]
    exact Session.run_bind_eq_ok.2 ⟨false, v, hv, rfl⟩

/-- Where no compiled file has anything to resolve, all files stay as they are. -/
theorem run_resolveImports_self {files : List (Option File)} (hfiles : s.files = some files)
    (h : ∀ item ∈ files, g.IsResolved w.files item) :
    ∃ v, (g.resolveImports s).run w = (.ok [], v) ∧ v.files = w.files := by
  have hall : ∀ (items : List (Option File)) (w : Workspace),
      (∀ item ∈ items, g.IsResolved w.files item) →
        ∃ v, (items.mapM g.resolveCompiled).run w = (.ok (items.map fun _ => none), v) ∧
          v.files = w.files := by
    intro items
    induction items with
    | nil => exact fun w _ => ⟨w, rfl, rfl⟩
    | cons item items ih =>
      intro w h
      obtain ⟨u, hu, hsame⟩ := run_resolveCompiled_self (h item (List.mem_cons_self ..))
      obtain ⟨v, hv, hrest⟩ := ih u fun i hi => hsame ▸ h i (List.mem_cons_of_mem _ hi)
      refine ⟨v, ?_, hrest.trans hsame⟩
      rw [List.mapM_cons]
      exact Session.run_bind_eq_ok.2 ⟨none, u, hu, Session.run_bind_eq_ok.2 ⟨_, v, hv, rfl⟩⟩
  obtain ⟨v, hv, hsame⟩ := hall files w h
  refine ⟨v, Session.run_bind_eq_ok.2 ⟨files, w, ?_, Session.run_bind_eq_ok.2 ⟨_, v, hv, ?_⟩⟩, hsame⟩
  · rw [FileSet.fileList, hfiles]
    rfl
  · have hnone : (files.map fun _ => (none : Option Path)).filterMap id = [] := by
      simp
    rw [hnone]
    rfl

/-! ## The index -/

/-- Names of compiled files have their ending; what comes before the last name comes so in the name of
the schema file. -/
theorem exists_partsOf_jsFileName (name : String) : ∃ parts stem, parts ⊆ Path.partsOf name ∧
    Path.partsOf (Naming.jsFileName name) = parts ++ [stem ++ Naming.compiledEnding] := by
  obtain ⟨front, last, stem, hname, hjs⟩ := Naming.exists_split_jsFileName name
  refine ⟨front.filter Path.isPart, stem, ?_, ?_⟩
  · rw [Path.partsOf, hname, List.filter_append]
    exact List.subset_append_left _ _
  · rw [Path.partsOf, hjs, List.filter_append]
    simp [Naming.isPart_compiled]

/-- The compiled file of a schema file is under the root. -/
theorem jsPath_eq_ok {f : File} {path : Path} (h : g.jsPath f = .ok path) :
    ∃ name, f.name = some name ∧ path = g.jsRoot.join (Path.read (Naming.jsFileName name)) := by
  unfold jsPath File.jsFile at h
  cases hname : f.name with
  | none =>
    rw [hname] at h
    cases h
  | some name =>
    rw [hname] at h
    exact ⟨name, rfl, (Except.ok.inj h).symm⟩

/-- The compiled file of a schema file has a name with the ending of compiled files. -/
theorem exists_parts_jsPath {f : File} {path : Path} (h : g.jsPath f = .ok path) :
    ∃ parts stem, path.parts = parts ++ [stem ++ Naming.compiledEnding] := by
  obtain ⟨name, -, hpath⟩ := jsPath_eq_ok h
  obtain ⟨parts, stem, -, hparts⟩ := exists_partsOf_jsFileName name
  rw [← Path.parts_read] at hparts
  rw [hpath]
  generalize Path.read (Naming.jsFileName name) = q at hparts
  unfold Path.join
  split
  · exact ⟨parts, stem, hparts⟩
  · exact ⟨g.jsRoot.parts ++ parts, stem, by rw [List.append_assoc, ← hparts]⟩

/-- Names other than `..` lead to different places. -/
theorem destination_ne {t : FileTree} {p q : Path} {ps qs : List String} {a b : String}
    (hp : p.parts = ps ++ [a]) (hq : q.parts = qs ++ [b]) (ha : a ≠ "..") (hb : b ≠ "..")
    (hab : a ≠ b) : t.destination p ≠ t.destination q := by
  unfold FileTree.destination
  rw [hp, hq, List.foldl_append, List.foldl_append]
  simp only [List.foldl_cons, List.foldl_nil, FileTree.follow, if_neg ha, if_neg hb]
  intro heq
  exact hab (List.append_inj_right' heq rfl |> List.singleton_inj.1)

theorem compiledName_ne {name : String} (stem : String)
    (hnone : Text.dropEnd? Naming.compiledEnding.toList name.toList = none) :
    stem ++ Naming.compiledEnding ≠ name := by
  rintro rfl
  rw [String.toList_append, dropEnd?_eq_some_iff.2 rfl] at hnone
  cases hnone

/-- The index is not written over a compiled file. -/
theorem destination_jsPath_ne {f : File} {path : Path} (h : g.jsPath f = .ok path) (t : FileTree) :
    t.destination path ≠ t.destination (g.jsRoot.join (Path.read indexFile)) := by
  obtain ⟨parts, stem, hparts⟩ := exists_parts_jsPath h
  have hindex : (g.jsRoot.join (Path.read indexFile)).parts = g.jsRoot.parts ++ [indexFile] := by
    have hread : Path.read indexFile = ⟨.here, [indexFile]⟩ := by decide
    rw [hread]
    rfl
  -- the name ends like compiled files do, other than that of the index
  exact destination_ne hparts hindex (compiledName_ne stem (by decide)) (by decide)
    (compiledName_ne stem (by decide))

/-- Writing the index leaves the other files as they are. -/
theorem content_writeIndex {path : Path} (h : (g.writeIndex s).run w = (.ok path, w')) :
    w'.files.workingDirectory = w.files.workingDirectory ∧
      ∀ l, l ≠ w.files.destination (g.jsRoot.join (Path.read indexFile)) →
        w'.files.content l = w.files.content l := by
  obtain ⟨_, made, hmade, h⟩ := Session.run_bind_eq_ok.1 h
  obtain ⟨index, _, hindex, h⟩ := Session.run_bind_eq_ok.1 h
  obtain ⟨-, rfl⟩ := Session.run_demand_eq_ok.1 hindex
  obtain ⟨_, written, hwritten, h⟩ := Session.run_bind_eq_ok.1 h
  obtain ⟨_, _, hnote, h⟩ := Session.run_bind_eq_ok.1 h
  obtain rfl := Session.run_note_eq_ok.1 hnote
  cases h
  have hdirectories := FileTree.adds_of_makeDirectories
    (Session.files_of_run_makeDirectories hmade)
  obtain ⟨hdirectory, hcontent⟩ :=
    FileTree.content_of_modifyText (Session.files_of_run_change hwritten)
  refine ⟨hdirectory.trans hdirectories.workingDirectory, fun l hl => ?_⟩
  rw [hcontent, if_neg, hdirectories.content, String.append_empty]
  rw [hdirectories.destination]
  exact hl

/-- The lines without import of a compiled file are there when a run is through. -/
theorem hasLine_of_finish {f : File} {path : Path} {line : String}
    (h : (g.finish s).run w = (.ok (), w')) (hpath : g.jsPath f = .ok path)
    (hline : HasLine line (w.files.content (w.files.destination path)))
    (hplain : occurs Import.opening.toList line.toList = false) :
    HasLine line (w'.files.content (w.files.destination path)) := by
  obtain ⟨_, v, hindex, h⟩ := Session.run_bind_eq_ok.1 h
  obtain ⟨_, _, himports, h⟩ := Session.run_bind_eq_ok.1 h
  cases h
  obtain ⟨-, hcontent⟩ := content_writeIndex hindex
  refine (keepsLines_resolveImports himports).lines _ line hplain ?_
  rw [hcontent _ (destination_jsPath_ne hpath _)]
  exact hline

/-! ## Declared parsers -/

/-- The index lists the parsers of all files. -/
theorem exists_of_mem_typeParsers {files : List (Option File)} {table : List (String × String)}
    (hfiles : s.files = some files) (h : s.typeParsers = .ok table) {entry : String × String}
    (hentry : entry ∈ table) : ∃ f t, some f ∈ files ∧ f.Parses t ∧ entry.2 = t.parser := by
  obtain ⟨t, ⟨files', f, hfiles', hf, ht⟩, heligible, rfl⟩ :=
    (FileSet.mem_typeParsers_iff h entry).1 hentry
  obtain rfl := Option.some.inj (hfiles.symm.trans hfiles')
  exact ⟨f, t, hf, ⟨ht, heligible⟩, rfl⟩

/-- The parsers of a file are among the code for the path of its compiled file. -/
theorem exists_mem_parserCode {files : List (Option File)} {code : List Rendered}
    (hfiles : s.files = some files) (hcode : g.rendered s = .ok code) {f : File}
    (hf : some f ∈ files) {t : MessageType} (ht : f.Parses t) :
    ∃ registry path text, g.jsPath f = .ok path ∧ text ∈ g.parserCode s path ∧
      f.renderParsers registry g.runtimeImport MessageType.isEligible = .ok (some text) := by
  obtain ⟨registry, parsers, typeUrls, hregistry, hparsers, -, -⟩ := rendered_eq_ok hcode
  -- the file has a text, since it has a parser
  obtain ⟨r, hr⟩ := (exists_renderEach_iff hfiles).1 ⟨parsers, hparsers⟩ (some f) hf
  obtain ⟨_, hfile, hitem⟩ := bind_eq_ok.1 hr
  cases hfile
  obtain ⟨text, htext, hitem⟩ := bind_eq_ok.1 hitem
  cases text with
  | none => exact absurd ht (File.not_parses_of_renderParsers htext t)
  | some text =>
    obtain ⟨path, hpath, hitem⟩ := bind_eq_ok.1 hitem
    cases hitem
    refine ⟨registry, path, text, failing_eq_ok.1 hpath, ?_, htext⟩
    rw [parserCode, hregistry]
    exact (mem_codeAt_iff hfiles).2 ⟨some f, hf, hr⟩

theorem exists_of_mem_parserCode {files : List (Option File)} {path : Path} {text : String}
    (hfiles : s.files = some files) (h : text ∈ g.parserCode s path) :
    ∃ registry f, some f ∈ files ∧ g.jsPath f = .ok path ∧
      f.renderParsers registry g.runtimeImport MessageType.isEligible = .ok (some text) := by
  unfold parserCode at h
  split at h
  · obtain ⟨item, hitem, hr⟩ := (mem_codeAt_iff hfiles).1 h
    obtain ⟨f, rfl, htext, hpath⟩ := exists_of_renderItem hr
    exact ⟨_, f, hitem, hpath, htext⟩
  · cases h

/-- The parsers of a file are declared in what is appended to the path of its compiled file, if no
other file with parsers has this path. -/
theorem standsIn_appended {files : List (Option File)} {code : List Rendered}
    (hfiles : s.files = some files) (hcode : g.rendered s = .ok code) {f : File}
    (hf : some f ∈ files) {t : MessageType} (ht : f.Parses t)
    (honly : ∀ p, (g.parserCode s p).length ≤ 1) :
    ∃ path, g.jsPath f = .ok path ∧ StandsIn (declaration t.parser) (g.appended s path) := by
  obtain ⟨registry, path, text, hpath, hmem, htext⟩ := exists_mem_parserCode hfiles hcode hf ht
  refine ⟨path, hpath, ?_⟩
  rw [appended_eq hcode, lastText_of_length_le (honly path)]
  exact ((File.standsIn_renderParsers htext ht).join hmem).append_right _

/-! ## Imports of the runtime sources -/

/-- The import of a runtime source. -/
def runtimeStatement (directory : Path) (name path : String) : Import.Statement :=
  ⟨directory, "let " ++ name ++ " = " ++ Import.opening, path, Import.closing ++ ".default;"⟩

theorem runtimeImport_eq (directory : Path) (name path : String) :
    File.runtimeImport name path = (runtimeStatement directory name path).text ++ "\n" := by
  have hopening : " = require('" = " = " ++ Import.opening := by decide +kernel
  have hclosing : "').default;\n" = Import.closing ++ ".default;" ++ "\n" := by decide +kernel
  rw [File.runtimeImport, hopening, hclosing, Import.Statement.text, runtimeStatement]
  simp only [String.append_assoc]

theorem isStill_runtimeImport {r : Import.Resolver} {directory : Path} {name path : String}
    (hname : Import.isClean ("let " ++ name ++ " = ").toList = true)
    (hpath : Import.isClean path.toList = true)
    (h : r.checked (runtimeStatement directory name path) =
      .ok (runtimeStatement directory name path)) :
    Import.IsStill r directory (File.runtimeImport name path) := by
  rw [runtimeImport_eq directory]
  exact .of_import hname hpath (by decide) h

/-! ## Runs -/

/-- Each text of a set is put behind what is stored where its path leads, once; nothing else is
added. -/
def AppendsOnce (g : Generation) (s : FileSet) (t u : FileTree) : Prop :=
  ∃ paths : List Path, paths.Nodup ∧ (∀ p, g.appended s p ≠ "" → p ∈ paths) ∧
    t.Adds u fun l =>
      String.join ((paths.filter fun p => t.destination p = l).map (g.appended s))

namespace AppendsOnce

variable {t u : FileTree} {path : Path} {line : String}

theorem destination (h : g.AppendsOnce s t u) (p : Path) : u.destination p = t.destination p := by
  obtain ⟨_, -, -, hadds⟩ := h
  exact hadds.destination p

/-- A line of a text is one of the file that its path leads to. -/
theorem hasLine (h : g.AppendsOnce s t u) (hstands : StandsIn line (g.appended s path))
    (hline : isUnbroken line.toList = true) :
    HasLine line (u.content (u.destination path)) := by
  obtain ⟨paths, -, hpaths, hadds⟩ := h
  have hmem : g.appended s path ∈
      (paths.filter fun p => t.destination p = t.destination path).map (g.appended s) :=
    List.mem_map_of_mem (List.mem_filter.2 ⟨hpaths path hstands.ne_empty, by simp⟩)
  rw [hadds.destination, hadds.content]
  exact hasLine_of_standsIn ((hstands.join hmem).append_left _) hline

/-- The text for a path stands behind what was stored where it leads, between the texts for other
paths that lead there. -/
theorem exists_content (h : g.AppendsOnce s t u) (hne : g.appended s path ≠ "") :
    ∃ earlier later, u.content (t.destination path) =
      t.content (t.destination path) ++ earlier ++ g.appended s path ++ later := by
  obtain ⟨paths, -, hpaths, hadds⟩ := h
  have hmem : path ∈ paths.filter fun p => t.destination p = t.destination path :=
    List.mem_filter.2 ⟨hpaths path hne, by simp⟩
  obtain ⟨before, after, hsplit⟩ := List.append_of_mem hmem
  refine ⟨String.join (before.map (g.appended s)), String.join (after.map (g.appended s)), ?_⟩
  rw [hadds.content, hsplit, List.map_append, List.map_cons, String.join_append, String.join_cons]
  simp only [String.append_assoc]

end AppendsOnce

theorem appendsOnce_of_appendCode (h : (g.appendCode s).run w = (.ok (), v)) :
    ∃ code, g.rendered s = .ok code ∧ g.AppendsOnce s w.files v.files := by
  obtain ⟨code, _, hdemand, happend⟩ := Session.run_bind_eq_ok.1 h
  obtain ⟨hcode, rfl⟩ := Session.run_demand_eq_ok.1 hdemand
  have happended : g.appended s = (Rendered.merge code).textAt := by
    funext p
    rw [appended, hcode]
  have hindexed := (Rendered.merge_spec code).1
  refine ⟨code, hcode, (Rendered.merge code).map Prod.fst, hindexed, fun p hp => ?_, ?_⟩
  · rw [happended] at hp
    exact Rendered.mem_keys_of_textAt hp
  · refine (adds_appendAll happend).congr fun l => ?_
    rw [happended, Rendered.textsAt_eq_map hindexed]

theorem exists_typeParsers_of_finish (h : (g.finish s).run w = (.ok (), w')) :
    ∃ table, s.typeParsers = .ok table := by
  obtain ⟨_, _, hindex, -⟩ := Session.run_bind_eq_ok.1 h
  obtain ⟨_, _, -, hindex⟩ := Session.run_bind_eq_ok.1 hindex
  obtain ⟨text, _, hdemand, -⟩ := Session.run_bind_eq_ok.1 hindex
  obtain ⟨htext, -⟩ := Session.run_demand_eq_ok.1 hdemand
  obtain ⟨_, -, htext⟩ := bind_eq_ok.1 (failing_eq_ok.1 htext)
  obtain ⟨_, -, htext⟩ := bind_eq_ok.1 htext
  obtain ⟨table, htable, -⟩ := bind_eq_ok.1 htext
  exact ⟨table, htable⟩

/-- A run that completes appends, for each path, the parsers of the last file with parsers under it
and the functions of the last file with types under it, and no more: this is all code of the files
with this path exactly if there are no others. Where no two files with parsers have one path, all
parsers that the index lists are declared in what is appended, and they still are when the imports
are resolved. -/
theorem run_appends (h : (g.run s).run w = (.ok (), w')) :
    (∃ v, (g.appendCode s).run w = (.ok (), v) ∧ (g.finish s).run v = (.ok (), w') ∧
        g.AppendsOnce s w.files v.files) ∧
      (∀ p, g.appended s p = lastText (g.parserCode s p) ++ lastText (g.urlCode s p) ∧
        (g.appended s p = String.join (g.parserCode s p) ++ String.join (g.urlCode s p) ↔
          (g.parserCode s p).length ≤ 1 ∧ (g.urlCode s p).length ≤ 1)) ∧
      ∃ table, s.typeParsers = .ok table ∧
        ((∀ p, (g.parserCode s p).length ≤ 1) → ∀ entry ∈ table, ∃ p,
          StandsIn (declaration entry.2) (g.appended s p) ∧
            (IsSettledLine (declaration entry.2) →
              HasLine (declaration entry.2) (w'.files.content (w.files.destination p)))) := by
  obtain ⟨v, happend, hfinish⟩ := run_eq_ok_iff.1 h
  obtain ⟨code, hcode, honce⟩ := appendsOnce_of_appendCode happend
  obtain ⟨table, htable⟩ := exists_typeParsers_of_finish hfinish
  refine ⟨⟨v, happend, hfinish, honce⟩,
    fun p => ⟨appended_eq hcode p, appended_eq_join_iff hcode p⟩, table, htable, ?_⟩
  intro honly entry hentry
  obtain ⟨registry, parsers, typeUrls, -, hparsers, -, -⟩ := rendered_eq_ok hcode
  obtain ⟨files, hfiles⟩ := exists_files_of_renderEach hparsers
  obtain ⟨f, t, hf, ht, hparser⟩ := exists_of_mem_typeParsers hfiles htable hentry
  obtain ⟨path, hpath, hstands⟩ := standsIn_appended hfiles hcode hf ht honly
  rw [hparser]
  refine ⟨path, hstands, fun hsettled => ?_⟩
  have hline := honce.hasLine hstands hsettled.unbroken
  have hfinal := hasLine_of_finish hfinish hpath hline hsettled.noImport
  rw [honce.destination] at hfinal
  exact hfinal

/-! ### Two schema files with one compiled file -/

/-- A schema file with an enum. -/
def stateFile : File :=
  { name := some "task.proto", messages := some [], enums := some [some { name := some "State" }] }

/-- A schema file with a message, and without the ending of schema files. -/
def noteFile : File :=
  { name := some "task"
    messages := some [some (.mk (some "Note") (some []) (some []) (some []))] }

/-- The set of both. -/
def taskFiles : FileSet := ⟨some [some stateFile, some noteFile]⟩

/-- A generation in a directory without files. -/
def taskGeneration : Generation := { jsRoot := ⟨.here, ["js"]⟩, runtimeImport := "" }

/-- The path of the compiled file of both. -/
def taskPath : Path := ⟨.here, ["js", "task_pb.js"]⟩

/-- The tree with the code for both. -/
def codeTree (code : String) : FileTree :=
  { nodes := [(["js"], .directory), (["js", "task_pb.js"], .file code)] }

/-- The tree with the index, too. -/
def listedTree (code index : String) : FileTree :=
  (codeTree code).put ["js", "index.js"] (.file index)

theorem parserCode_task : ∃ parsers, ∀ p,
    taskGeneration.parserCode taskFiles p = Rendered.textsAt id p [(taskPath, parsers)] :=
  ⟨_, fun _ => rfl⟩

theorem urlCode_task : ∃ first second, ∀ p,
    taskGeneration.urlCode taskFiles p =
      Rendered.textsAt id p [(taskPath, first), (taskPath, second)] :=
  ⟨_, _, fun _ => rfl⟩

/-- The code for both is put together from imports of the runtime sources and settled lines. -/
theorem rendered_task : ∃ (path : String) (parser urls : Code.Writer),
    taskGeneration.rendered taskFiles =
        .ok [[(taskPath, File.parsersText path [parser.draft])], [(taskPath, urls.draft ++ "\n")]] ∧
      path = "./" ∧ parser.rendered ≠ [] ∧ urls.rendered ≠ [] ∧
      ∀ line ∈ ["", "// " ++ generatedMarker] ++ parser.rendered ++ urls.rendered,
        IsSettledLine line :=
  ⟨_, _, _, rfl, by decide +kernel⟩

/-- The runtime sources are missing in the tree with the index. -/
theorem isStill_runtimeImport_task (code index name file : String)
    (h : (name, file) ∈
      [("ObjectParser", "object-parser.js"), ("TypeParsers", "type-parsers.js")]) :
    Import.IsStill (Import.resolverFor (listedTree code index) taskGeneration.jsRoot [])
      taskPath.parent (File.runtimeImport name ("./" ++ file)) := by
  have hnames : Import.isClean ("let " ++ name ++ " = ").toList = true ∧
      Import.isClean ("./" ++ file).toList = true ∧
      (runtimeStatement taskPath.parent name ("./" ++ file)).isRelative = true ∧
      (runtimeStatement taskPath.parent name ("./" ++ file)).importedFile = ⟨.here, ["js", file]⟩ ∧
      (runtimeStatement taskPath.parent name ("./" ++ file)).inMainSources.importedFile =
        ⟨.here, ["main", file]⟩ := by
    simp only [List.mem_cons, List.not_mem_nil, or_false, Prod.mk.injEq] at h
    obtain ⟨rfl, rfl⟩ | ⟨rfl, rfl⟩ := h
    · decide +kernel
    · decide +kernel
  have hmissing : ∀ p ∈ [Path.mk .here ["js", file], Path.mk .here ["main", file]],
      (listedTree code index).isPresent p = false ∧
        (listedTree code index).lookFault? p = none := by
    simp only [List.mem_cons, List.not_mem_nil, or_false, Prod.mk.injEq] at h
    obtain ⟨-, rfl⟩ | ⟨-, rfl⟩ := h <;> rintro p (_ | ⟨_, _ | ⟨_, ⟨⟩⟩⟩) <;> exact ⟨rfl, rfl⟩
  obtain ⟨hname, hpath, hrelative, hbeside, hmain⟩ := hnames
  refine isStill_runtimeImport hname hpath (Import.Resolver.checked_of_missing
    (Import.isWellKnown_of_isRelative hrelative) ?_ ?_ rfl)
  · rw [Import.Resolver.finds, Import.Resolver.faultOf?, hbeside]
    exact hmissing _ (by simp)
  · rw [Import.Resolver.finds, Import.Resolver.faultOf?, hmain]
    exact hmissing _ (by simp)

theorem run_appendAll_task (parsers urls : String) : ∃ records,
    (appendAll [[(taskPath, parsers)], [(taskPath, urls)]]).run { files := {} } =
      (.ok (), { files := codeTree ("" ++ (parsers ++ urls)), records := records }) :=
  ⟨_, rfl⟩

/-- The index is written whatever the code is. -/
theorem run_writeIndex_task (code : String) (records : List Record) :
    ∃ path index records',
      (taskGeneration.writeIndex taskFiles).run { files := codeTree code, records := records } =
        (.ok path, { files := listedTree code index, records := records' }) :=
  ⟨_, _, _, rfl⟩

/-- The code for both has nothing to resolve. -/
theorem isStill_task {parser urls : Code.Writer} (hparser : parser.rendered ≠ [])
    (hurls : urls.rendered ≠ [])
    (hlines : ∀ line ∈ ["", "// " ++ generatedMarker] ++ parser.rendered ++ urls.rendered,
      IsSettledLine line) (code index : String) :
    Import.IsStill (Import.resolverFor (listedTree code index) taskGeneration.jsRoot [])
      taskPath.parent ("" ++ (File.parsersText "./" [parser.draft] ++ (urls.draft ++ "\n"))) := by
  have hhead : "\n// " ++ generatedMarker ++ "\n\n" =
      String.intercalate "\n" ["", "// " ++ generatedMarker, ""] ++ "\n" := by
    decide +kernel
  rw [String.empty_append, File.parsersText, hhead, List.map_singleton, String.join_cons,
    String.join_nil, String.append_empty]
  refine .append (.append (.append (.append ?_ ?_) ?_) ?_) ?_
  · refine .of_lines (List.cons_ne_nil _ _) fun line hline => hlines line ?_
    simp only [List.mem_cons, List.not_mem_nil, or_false] at hline
    rcases hline with rfl | rfl | rfl <;> simp
  · exact isStill_runtimeImport_task code index "ObjectParser" "object-parser.js" (by simp)
  · exact isStill_runtimeImport_task code index "TypeParsers" "type-parsers.js" (by simp)
  · exact .of_lines hparser fun line hline => hlines line (by simp [hline])
  · exact .of_lines hurls fun line hline => hlines line (by simp [hline])

theorem run_task : ∃ w', (taskGeneration.run taskFiles).run { files := {} } = (.ok (), w') := by
  obtain ⟨path, parser, urls, hrendered, rfl, hparser, hurls, hlines⟩ := rendered_task
  have hstill := isStill_task hparser hurls hlines
  obtain ⟨records, happend⟩ := run_appendAll_task (File.parsersText "./" [parser.draft])
    (urls.draft ++ "\n")
  -- what is looked up from here on depends on where the files are, not on their text
  generalize "" ++ (File.parsersText "./" [parser.draft] ++ (urls.draft ++ "\n")) = text
    at happend hstill
  obtain ⟨_, index, records', hindex⟩ := run_writeIndex_task text records
  have hread : (listedTree text index).readText taskPath =
      .ok (String.ofList (foldEndings text.toList)) := rfl
  have hresolved : ∀ f, taskGeneration.jsPath f = .ok taskPath →
      taskGeneration.IsResolved (listedTree text index) (some f) := fun f hf =>
    ⟨f, taskPath, rfl, hf, rfl,
      fun _ => ⟨_, hread, Import.resolveText_self_foldEndings (hstill text index).same⟩⟩
  have hfiles : ∀ item ∈ [some stateFile, some noteFile],
      taskGeneration.IsResolved (listedTree text index) item := by
    rintro item (_ | ⟨_, _ | ⟨_, ⟨⟩⟩⟩)
    · exact hresolved _ rfl
    · exact hresolved _ rfl
  obtain ⟨w', hresolve, -⟩ :=
    run_resolveImports_self (s := taskFiles) (w := ⟨listedTree text index, records'⟩) rfl hfiles
  refine ⟨w', run_eq_ok_iff.2 ⟨⟨codeTree text, records⟩, ?_, ?_⟩⟩
  · exact Session.run_bind_eq_ok.2 ⟨_, _, Session.run_demand_eq_ok.2 ⟨hrendered, rfl⟩, happend⟩
  · exact Session.run_bind_eq_ok.2 ⟨_, _, hindex, Session.run_bind_eq_ok.2 ⟨_, _, hresolve, rfl⟩⟩

/-- The function that returns the URL of the enum is lost, the parser of the message is declared. -/
theorem run_appends_task :
    ∃ w', (taskGeneration.run taskFiles).run { files := {} } = (.ok (), w') ∧
      taskGeneration.appended taskFiles taskPath ≠
        String.join (taskGeneration.parserCode taskFiles taskPath) ++
          String.join (taskGeneration.urlCode taskFiles taskPath) ∧
      ∃ p, HasLine (declaration "proto.Note.Parser")
        (w'.files.content (FileTree.destination {} p)) := by
  obtain ⟨w', hrun⟩ := run_task
  obtain ⟨_, hpath, table, htable, hdeclared⟩ := run_appends hrun
  refine ⟨w', hrun, ?_, ?_⟩
  · obtain ⟨first, second, hurls⟩ := urlCode_task
    intro heq
    obtain ⟨-, hone⟩ := (hpath taskPath).2.1 heq
    rw [hurls] at hone
    exact absurd hone (Nat.not_le.2 (Nat.lt_succ_self 1))
  · obtain ⟨parsers, hparsers⟩ := parserCode_task
    have hlisted : taskFiles.typeParsers =
        .ok [("type.googleapis.com/Note", "proto.Note.Parser")] := by
      decide +kernel
    rw [hlisted, Except.ok.injEq] at htable
    have honly : ∀ p, (taskGeneration.parserCode taskFiles p).length ≤ 1 := fun p => by
      rw [hparsers]
      exact Rendered.length_textsAt_le (List.nodup_cons.2 ⟨List.not_mem_nil, List.nodup_nil⟩)
    obtain ⟨p, -, hline⟩ := hdeclared honly _ (htable ▸ List.mem_singleton.2 rfl)
    exact ⟨p, hline (by decide +kernel)⟩

end Generation

end Protogen
