import Protogen.Proofs.Generation.Steps
import Protogen.Proofs.Generation.Touched

/-!
# What the index lists

The import of a compiled file and the path under which code is appended to it are put together apart.
For files with relative names both lead to the same place.

* `jsPath_of_jsImport`: an import leads from the root to the compiled file.
* `exists_nodeAt?_of_appendCode`: there is a file for each schema file that declares a type; it stays
  to the end (`exists_nodeAt?_of_run`).
* `IsListing` says what the imports and the tables of the index are about, `run_lists` that a run
  leaves such an index.
-/

set_option autoImplicit false

namespace Protogen

open Schema FileTree

/-- A schema file with a relative name. -/
def Schema.File.IsRelative (f : File) : Prop :=
  ∀ name, f.name = some name → (Path.read name).isAbsolute = false

namespace Generation

variable {g : Generation} {s : FileSet} {files : List (Option File)} {f : File}
variable {w w' v : Workspace} {p : Path} {js : String}

/-! ## Imports -/

/-- The import of the index leads from the root to the compiled file. -/
theorem jsPath_of_jsImport (hf : f.IsRelative) (h : f.jsImport = some js) :
    g.jsPath f = .ok (g.jsRoot.join (Path.read js)) := by
  obtain ⟨name, hname, rfl⟩ := Option.map_eq_some_iff.1 h
  rw [Path.read_dotSlash (Naming.isAbsolute_jsFileName (hf name hname)), jsPath, File.jsFile, hname]
  rfl

/-! ## Compiled files -/

/-- Where code is appended there is a file. -/
theorem exists_nodeAt?_of_appendCode (hfiles : s.files = some files) (hf : some f ∈ files)
    (hany : f.DeclaresAny) (hpath : g.jsPath f = .ok p)
    (h : (g.appendCode s).run w = (.ok (), v)) :
    ∃ text, v.files.nodeAt? p = some (.file text) := by
  obtain ⟨registry, parsers, typeUrls, -, hparsers, htypeUrls, happend⟩ := of_appendCode h
  have hmem := (mem_keys_merge_iff hfiles hparsers htypeUrls).2 ⟨f, hf, hany, hpath⟩
  obtain ⟨htakes, hfiled⟩ := filed_of_run happend
  obtain ⟨e, he, rfl⟩ := List.mem_map.1 hmem
  have hfile := hfiled.file e he
  rw [← destination_eq_of_workingDirectory hfiled.workingDirectory] at hfile
  refine ⟨_, nodeAt?_eq_some_iff.2 ⟨hfile, fun m hm => ?_, htakes.short _ hmem⟩⟩
  rw [origin, hfiled.workingDirectory] at hm
  exact hfiled.directory e he m (w.files.stops_subset_way_parent e.1 hm)

/-- A run leaves a compiled file of each file that declares a type. -/
theorem exists_nodeAt?_of_run (hfiles : s.files = some files) (hf : some f ∈ files)
    (hany : f.DeclaresAny) (hpath : g.jsPath f = .ok p) (h : (g.run s).run w = (.ok (), w')) :
    ∃ text, w'.files.nodeAt? p = some (.file text) := by
  obtain ⟨v, happend, hfinish⟩ := run_eq_ok_iff.1 h
  obtain ⟨_, next, results, hindex, hresults⟩ := of_finish hfiles hfinish
  obtain ⟨text, htext⟩ := exists_nodeAt?_of_appendCode hfiles hf hany hpath happend
  obtain ⟨kept, hkept⟩ := (grows_of_writeIndex hindex).fileAt htext
  exact (grows_of_mapM hresults).fileAt hkept

/-! ## The index -/

/-- The index imports, in the order of the files, the compiled files of just those that declare a type;
all of them are there, seen from the root. The entries of its tables belong to types of files that it
imports. -/
structure IsListing (g : Generation) (files : List (Option File)) (t : FileTree)
    (imports : List String) (types parsers : List (String × String)) : Prop where
  imports_eq : imports.map some =
    (files.reduceOption.filter fun f => f.DeclaresAny).map File.jsImport
  there : ∀ js ∈ imports, ∃ text, t.nodeAt? (g.jsRoot.join (Path.read js)) = some (.file text)
  types : ∀ entry ∈ types, ∃ f, some f ∈ files ∧ (∃ js ∈ imports, f.jsImport = some js) ∧
    ((∃ t, f.DeclaresMessage t ∧ entry = t.known) ∨ ∃ t, f.DeclaresEnum t ∧ entry = t.known)
  parsers : ∀ entry ∈ parsers, ∃ f, some f ∈ files ∧ (∃ js ∈ imports, f.jsImport = some js) ∧
    ∃ t, f.Parses t ∧ entry = (t.url, t.parser)

section

variable {imports : List String} {types parsers : List (String × String)}
variable (hfiles : s.files = some files)
include hfiles

/-- What is imported are the compiled files of the files that declare a type. -/
theorem jsImport_of_mem_imports (himports : s.indexImports = .ok imports) (hjs : js ∈ imports) :
    ∃ f, some f ∈ files ∧ f.DeclaresAny ∧ f.jsImport = some js := by
  have hmem : some js ∈ imports.map some := List.mem_map_of_mem hjs
  rw [FileSet.indexImports_eq hfiles himports] at hmem
  obtain ⟨f, hf, himport⟩ := List.mem_map.1 hmem
  rw [List.mem_filter, List.reduceOption_mem_iff, decide_eq_true_eq] at hf
  exact ⟨f, hf.1, hf.2, himport⟩

theorem jsImport_mem_imports (himports : s.indexImports = .ok imports) (hf : some f ∈ files)
    (hany : f.DeclaresAny) : ∃ js ∈ imports, f.jsImport = some js := by
  have hmem : f.jsImport ∈ imports.map some := by
    rw [FileSet.indexImports_eq hfiles himports]
    refine List.mem_map_of_mem (List.mem_filter.2 ⟨?_, decide_eq_true hany⟩)
    exact List.reduceOption_mem_iff.2 hf
  obtain ⟨js, hjs, himport⟩ := List.mem_map.1 hmem
  exact ⟨js, hjs, himport.symm⟩

/-- An entry of the types belongs to a type of a file. -/
theorem exists_of_mem_knownTypes (htypes : s.knownTypes = .ok types) {entry : String × String}
    (hentry : entry ∈ types) :
    ∃ f, some f ∈ files ∧
      ((∃ t, f.DeclaresMessage t ∧ entry = t.known) ∨ ∃ t, f.DeclaresEnum t ∧ entry = t.known) := by
  obtain ⟨messages, hmessages, h⟩ := bind_eq_ok.1 htypes
  obtain ⟨enums, henums, -⟩ := bind_eq_ok.1 h
  rw [FileSet.knownTypes_eq_ok hmessages henums, Except.ok.injEq] at htypes
  rw [← htypes, List.mem_append, List.mem_map, List.mem_map] at hentry
  rcases hentry with ⟨t, ht, rfl⟩ | ⟨t, ht, rfl⟩
  · obtain ⟨list, f, hlist, hf, ht⟩ := (FileSet.mem_messageTypes_iff hmessages t).1 ht
    obtain rfl := Option.some.inj (hfiles.symm.trans hlist)
    exact ⟨f, hf, .inl ⟨t, ht, rfl⟩⟩
  · obtain ⟨list, f, hlist, hf, ht⟩ := (FileSet.mem_enumTypes_iff henums t).1 ht
    obtain rfl := Option.some.inj (hfiles.symm.trans hlist)
    exact ⟨f, hf, .inr ⟨t, ht, rfl⟩⟩

end

theorem isRelative_stateAndBlank (files : List (Option File)) (f : File)
    (hfiles : stateAndBlank.files = some files) (hf : some f ∈ files) : f.IsRelative :=
  FileSet.forall_names rfl (by decide) files f hfiles hf

end Generation

end Protogen
