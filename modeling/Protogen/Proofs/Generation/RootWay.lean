import Protogen.Proofs.Generation.Runtime
import Protogen.Proofs.Generation.Steps

/-!
# The way to the root

* The way to the root of a compiled file has a step up for every slash of its name
  (`read_pathToRoot`), which are those of the schema file.
* `runtime_imports_lead_to_root`: seen from the compiled file, the imports of the runtime sources lead
  to the place under the root that the generation names, also for a root with steps up.
-/

set_option autoImplicit false

namespace Protogen

open Schema Import

namespace Naming

theorem partsOf_up (n : Nat) (text : String) :
    Path.partsOf (String.join (List.replicate n "../") ++ text) =
      List.replicate n ".." ++ Path.partsOf text := by
  induction n with
  | zero => simp
  | succ n ih =>
    have hstep : ∀ more, Path.partsOf ("../" ++ more) = ".." :: Path.partsOf more := by
      intro more
      exact Path.partsOf_slash ".." more
    rw [List.replicate_succ, String.join_cons, String.append_assoc, hstep, ih,
      List.replicate_succ, List.cons_append]

theorem partsOf_pathToRoot (file text : String) :
    Path.partsOf (pathToRoot file ++ text) =
      List.replicate (file.toList.count '/') ".." ++ Path.partsOf text := by
  unfold pathToRoot
  dsimp only
  split
  · rename_i hzero
    rw [hzero]
    exact Path.partsOf_slash "." text
  · exact partsOf_up _ text

/-- The way to the root has a step up for every slash. -/
theorem read_pathToRoot (file text : String) :
    Path.read (pathToRoot file ++ text) =
      ⟨.here, List.replicate (file.toList.count '/') ".." ++ Path.partsOf text⟩ := by
  have hanchor : Path.anchorOf (pathToRoot file ++ text) = .here := by
    apply Path.anchorOf_eq_here
    rcases pathToRoot_cases file with hway | ⟨n, hway⟩ <;> simp [hway]
  rw [Path.read, hanchor, partsOf_pathToRoot]

end Naming

namespace Generation

variable {g : Generation} {f : File} {registry : Registry} {name text : String}

theorem isRelative_of_components (h : ∀ c ∈ Text.split '/' name, c ≠ "") :
    (Path.read name).isAbsolute = false := by
  rw [← Bool.not_eq_true, Path.isAbsolute_read_iff]
  intro hhead
  obtain ⟨rest, hrest⟩ := List.head?_eq_some_iff.1 hhead
  refine h "" ?_ rfl
  simp [Text.split, hrest, List.splitOn_cons_eq_if_modifyHead]

/-- The compiled file is in as many directories as its name has slashes. -/
theorem exists_front (hcomponents : ∀ c ∈ Text.split '/' name, c ≠ "" ∧ c ≠ "." ∧ c ≠ "..") :
    ∃ front file, Path.partsOf (Naming.jsFileName name) = front ++ [file] ∧ ".." ∉ front ∧
      (Naming.jsFileName name).toList.count '/' = front.length := by
  obtain ⟨front, last, stem, hsplit, hjs⟩ := Naming.exists_split_jsFileName name
  have hfront : ∀ c ∈ front, c ≠ "" ∧ c ≠ "." ∧ c ≠ ".." := by
    intro c hc
    exact hcomponents c (hsplit ▸ List.mem_append_left _ hc)
  refine ⟨front, stem ++ Naming.compiledEnding, ?_, fun hmem => (hfront _ hmem).2.2 rfl, ?_⟩
  · have hall : ∀ c ∈ front, Path.isPart c = true := by
      intro c hc
      obtain ⟨hempty, hdot, -⟩ := hfront c hc
      simp [Path.isPart, hempty, hdot]
    rw [Path.partsOf, hjs, List.filter_append, List.filter_eq_self.2 hall]
    simp [Naming.isPart_compiled]
  · have hlength := Path.length_split (Naming.jsFileName name)
    rw [hjs, List.length_append, List.length_singleton] at hlength
    omega

/-- From the compiled file the way to the root leads back through the directories of its name. -/
theorem normalize_pathToRoot (hname : f.name = some name)
    (hcomponents : ∀ c ∈ Text.split '/' name, c ≠ "" ∧ c ≠ "." ∧ c ≠ "..") :
    ∃ path, g.jsPath f = .ok path ∧ ∀ reference : String,
      (path.parent.join
          (Path.read (Naming.pathToRoot (Naming.jsFileName name) ++ reference))).normalize =
        (Path.mk g.jsRoot.anchor (g.jsRoot.parts ++ Path.partsOf reference)).normalize := by
  obtain ⟨front, file, hparts, hup, hcount⟩ := exists_front hcomponents
  have hrelative := Naming.isAbsolute_jsFileName
    (isRelative_of_components fun c hc => (hcomponents c hc).1)
  refine ⟨g.jsRoot.join (Path.read (Naming.jsFileName name)), ?_, fun reference => ?_⟩
  · rw [jsPath, File.jsFile, hname]
    rfl
  · have hparent : (g.jsRoot.join (Path.read (Naming.jsFileName name))).parent =
        ⟨g.jsRoot.anchor, g.jsRoot.parts ++ front⟩ := by
      rw [Path.join, hrelative, if_neg Bool.false_ne_true, Path.parent, Path.parts_read, hparts,
        ← List.append_assoc, List.dropLast_concat]
    rw [hparent, Naming.read_pathToRoot, hcount]
    exact Path.normalize_back g.jsRoot hup _

/-- Whatever the root, and however deep a schema file without steps in its name: the text of its
parsers imports each runtime source by a path that leads, from the directory of the compiled file, to
that source behind the prefix under the root. -/
theorem runtime_imports_lead_to_root (hname : f.name = some name)
    (hcomponents : ∀ c ∈ Text.split '/' name, c ≠ "" ∧ c ≠ "." ∧ c ≠ "..")
    (hbegins : g.runtimeImport.toList.head? ≠ some '/')
    (hrender : f.renderParsers registry g.runtimeImport MessageType.isEligible = .ok (some text)) :
    ∃ path parsers, g.jsPath f = .ok path ∧
      text = "\n// " ++ generatedMarker ++ "\n\n" ++
        runtimeImports (Naming.pathToRoot (Naming.jsFileName name) ++ g.runtimeImport) ++ parsers ∧
      ∀ source ∈ runtimeSources,
        (path.parent.join (Path.read
            (Naming.pathToRoot (Naming.jsFileName name) ++ g.runtimeImport ++ source))).normalize =
          (g.jsRoot.join (Path.read (g.runtimeImport ++ source))).normalize := by
  obtain ⟨path, hpath, hway⟩ := normalize_pathToRoot (g := g) hname hcomponents
  obtain ⟨_, parsers, js, -, -, -, hjs, rfl⟩ := File.renderParsers_eq_some hrender
  rw [File.jsFile, hname] at hjs
  obtain rfl : Naming.jsFileName name = js := Except.ok.inj hjs
  refine ⟨path, _, hpath, parsersText_eq _ _, fun source hsource => ?_⟩
  have hhead : (g.runtimeImport ++ source).toList.head? ≠ some '/' := by
    have hsources : ∀ source ∈ runtimeSources, source.toList.head? ≠ some '/' := by decide
    rw [String.toList_append, List.head?_append]
    cases hempty : g.runtimeImport.toList.head? with
    | none => exact hsources source hsource
    | some c => rwa [hempty] at hbegins
  have hread : Path.read (g.runtimeImport ++ source) =
      ⟨.here, Path.partsOf (g.runtimeImport ++ source)⟩ := by
    rw [Path.read, Path.anchorOf_eq_here hhead]
  rw [String.append_assoc, hway, hread]
  rfl

/-- A generation in a directory beside the working directory, with a prefix that goes up and down. -/
def besideGeneration : Generation :=
  { jsRoot := ⟨.here, ["..", "js"]⟩, runtimeImport := "lib/.././rt/" }

theorem runtime_imports_lead_to_root_beside : ∃ text path parsers,
    deepFile.renderParsers ⟨[]⟩ besideGeneration.runtimeImport MessageType.isEligible =
      .ok (some text) ∧
    besideGeneration.jsPath deepFile = .ok path ∧
    text = "\n// " ++ generatedMarker ++ "\n\n" ++ runtimeImports "../../lib/.././rt/" ++ parsers ∧
    ∀ source ∈ runtimeSources,
      (path.parent.join (Path.read ("../../lib/.././rt/" ++ source))).normalize =
        ⟨.here, ["..", "js", "rt", source]⟩ := by
  have hname : deepFile.name = some "a/b/note.proto" := rfl
  obtain ⟨text, hrender⟩ : ∃ text, deepFile.renderParsers ⟨[]⟩ besideGeneration.runtimeImport
      MessageType.isEligible = .ok (some text) := ⟨_, rfl⟩
  obtain ⟨path, parsers, hpath, htext, hsources⟩ :=
    runtime_imports_lead_to_root hname (by decide) (by decide) hrender
  have hway : Naming.pathToRoot (Naming.jsFileName "a/b/note.proto") ++
      besideGeneration.runtimeImport = "../../lib/.././rt/" := by decide
  have hroot : ∀ source ∈ runtimeSources,
      (besideGeneration.jsRoot.join
        (Path.read (besideGeneration.runtimeImport ++ source))).normalize =
        ⟨.here, ["..", "js", "rt", source]⟩ := by decide
  rw [hway] at htext hsources
  refine ⟨text, path, parsers, hrender, hpath, htext, fun source hsource => ?_⟩
  rw [hsources source hsource, hroot source hsource]

end Generation

end Protogen
