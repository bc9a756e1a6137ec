import Protogen.Proofs.Generation.Filed
import Protogen.Proofs.Generation.Passage
import Protogen.Proofs.Import.Runtime

/-!
# Resolved imports of the runtime sources

* `runtimeImports` are the imports of the runtime sources in front of parsers. At every depth they
  turn into those from the package that provides them (`turnsAt_runtimeImports`).
* `exists_parsersText` is what is appended for a file with a parser.
* `run_resolves_runtime`: when a run is through, the imports of the runtime sources are those from the
  package, however deep the file is.
-/

set_option autoImplicit false

namespace Protogen.Generation

open Schema FileTree Import Text

variable {g : Generation} {s : FileSet} {files : List (Option File)} {f : File} {t : FileTree}
variable {path directory : Path} {w w' v : Workspace} {user : List Module}

/-! ## Imports -/

/-- The imports of the runtime sources at a place. -/
def runtimeImports (place : String) : String :=
  File.runtimeImport "ObjectParser" (place ++ "object-parser.js") ++
    File.runtimeImport "TypeParsers" (place ++ "type-parsers.js")

theorem parsersText_eq (place : String) (parsers : List String) :
    File.parsersText place parsers = "\n// " ++ generatedMarker ++ "\n\n" ++ runtimeImports place ++
      String.join (parsers.map (· ++ "\n")) := by
  simp only [File.parsersText, runtimeImports, String.append_assoc]

theorem statementIn_runtimeStatement (directory : Path) {name path : String}
    (hname : isClean ("let " ++ name ++ " = ").toList = true) (hpath : isClean path.toList = true) :
    isUnbroken (runtimeStatement directory name path).text.toList = true ∧
      Resolver.statementIn directory
          ⟨(runtimeStatement directory name path).text.toList, ['\n']⟩ =
        .ok (some (runtimeStatement directory name path)) := by
  have hafter : isUnbroken ".default;".toList = true := by decide
  exact ⟨isUnbroken_import hname hpath hafter, statementIn_append ".default;" _ hname hpath⟩

theorem turns_runtimeImport {r : Resolver} {name path new : String}
    (hname : isClean ("let " ++ name ++ " = ").toList = true) (hpath : isClean path.toList = true)
    (h : r.resolve (runtimeStatement directory name path) =
      (runtimeStatement directory name path).replacePath new) :
    r.Turns directory (File.runtimeImport name path) (File.runtimeImport name new) := by
  obtain ⟨hline, hread⟩ := statementIn_runtimeStatement directory hname hpath
  have hturns := Resolver.turns_statement (r := r) hline hread
  rw [h] at hturns
  rw [runtimeImport_eq directory, runtimeImport_eq directory]
  exact hturns

theorem isResolvable_runtimeImport {r : Resolver} {name path : String} {resolved : Statement}
    (hname : isClean ("let " ++ name ++ " = ").toList = true) (hpath : isClean path.toList = true)
    (h : r.checked (runtimeStatement directory name path) = .ok resolved) :
    r.IsResolvable directory (File.runtimeImport name path) := by
  obtain ⟨hline, hread⟩ := statementIn_runtimeStatement directory hname hpath
  rw [runtimeImport_eq directory]
  exact .of_statement hline hread h

/-- The imports of the runtime sources turn together if each of them is resolved to the package. -/
theorem turns_runtimeImports {r : Resolver} {place : String} (hplace : isClean place.toList = true)
    (h : ∀ name, ∀ source ∈ runtimeSources,
      r.resolve (runtimeStatement directory name (place ++ source)) =
        (runtimeStatement directory name (place ++ source)).replacePath (runtimePackage ++ source)) :
    r.Turns directory (runtimeImports place) (runtimeImports runtimePackage) := by
  have hturns : ∀ {name source : String}, isClean ("let " ++ name ++ " = ").toList = true →
      source ∈ runtimeSources → r.Turns directory (File.runtimeImport name (place ++ source))
        (File.runtimeImport name (runtimePackage ++ source)) := by
    intro name source hname hsource
    have hsources : ∀ source ∈ runtimeSources, isClean source.toList = true := by decide +kernel
    refine turns_runtimeImport hname ?_ (h name source hsource)
    rw [String.toList_append, isClean_append]
    exact ⟨hplace, hsources source hsource⟩
  exact (hturns (by decide) (by decide)).append (hturns (by decide) (by decide))

/-- From every depth the imports of missing runtime sources turn into those from the package, if no
module before it provides them. There they stay. -/
theorem turnsAt_runtimeImports (js : String) (hmodules : g.modules = user ++ predefined)
    (huser : LeaveRuntime user) (hpath : g.jsPath f = .ok path)
    (hlacks : LacksRuntime t path.parent (Naming.pathToRoot js ++ defaultRuntimeImport)) :
    TurnsAt (g.resolver t) t (t.destination path)
        (runtimeImports (Naming.pathToRoot js ++ defaultRuntimeImport))
        (runtimeImports runtimePackage) ∧
      TurnsAt (g.resolver t) t (t.destination path) (runtimeImports runtimePackage)
        (runtimeImports runtimePackage) := by
  have hplace : isClean (Naming.pathToRoot js ++ defaultRuntimeImport).toList = true := by
    rw [String.toList_append, isClean_append]
    exact ⟨isClean_pathToRoot js, by decide⟩
  refine ⟨fun directory hdirectory => ?_, fun directory _ => ?_⟩
  · rw [← destination_parent_jsPath hpath] at hdirectory
    refine turns_runtimeImports hplace fun name source hsource => ?_
    have hrelative : (runtimeStatement directory name
        (Naming.pathToRoot js ++ defaultRuntimeImport ++ source)).isRelative = true :=
      isRelative_pathToRoot (String.append_assoc ..)
    obtain ⟨hbeside, hmain⟩ := hlacks source hsource
    exact resolve_runtime hmodules huser hsource rfl
      (not_finds_of_isMissing hrelative hdirectory hbeside)
      (not_finds_of_isMissing (Resolver.isRelative_inMainSources hrelative) hdirectory hmain)
  · exact turns_runtimeImports (by decide) fun name source _ => resolve_runtimePackage rfl

/-! ## Appended parsers -/

/-- The compiled file of a schema file with parsers gets the text of parsers: of all files with the
same compiled file, those of the last. -/
theorem exists_parsersText (hfiles : s.files = some files)
    (h : (g.appendCode s).run w = (.ok (), v)) (hf : some f ∈ files) {m : MessageType}
    (hm : f.Parses m) :
    ∃ path f' m' js parsers rest, g.jsPath f = .ok path ∧ some f' ∈ files ∧ f'.Parses m' ∧
      g.jsPath f' = .ok path ∧ f'.jsFile = .ok js ∧ g.appended s path =
        File.parsersText (Naming.pathToRoot js ++ g.runtimeImport) parsers ++ rest := by
  obtain ⟨code, hcode, -⟩ := appendsOnce_of_appendCode h
  obtain ⟨_, path, text, hpath, hmem, -⟩ := exists_mem_parserCode hfiles hcode hf hm
  obtain ⟨last, hlast⟩ := Option.ne_none_iff_exists'.1
    (List.getLast?_eq_none_iff.not.2 (List.ne_nil_of_mem hmem))
  obtain ⟨_, f', hf', hpath', htext⟩ :=
    exists_of_mem_parserCode hfiles (List.mem_of_getLast? hlast)
  obtain ⟨m', hm'⟩ := File.exists_parses_of_renderParsers htext
  obtain ⟨_, parsers, js, -, -, -, hjs, rfl⟩ := File.renderParsers_eq_some htext
  refine ⟨path, f', m', js, parsers, lastText (g.urlCode s path), hpath, hf', hm', hpath', hjs, ?_⟩
  rw [appended_eq hcode, lastText, hlast]
  simp

/-! ## Runs -/

/-- Whether the runtime sources are missing that are imported where parsers are appended to a path. -/
def LacksRuntimeAt (g : Generation) (files : List (Option File)) (path : Path) (t : FileTree) : Prop :=
  ∀ f m js, some f ∈ files → f.Parses m → g.jsPath f = .ok path → f.jsFile = .ok js →
    LacksRuntime t path.parent (Naming.pathToRoot js ++ defaultRuntimeImport)

/-- For a file with a parser, at whatever depth, a run that completes appends a text of parsers to its
compiled file: its own ones, or those of the last file with the same compiled file. If the runtime
sources that this text imports are missing, also among the main sources, and no module before the
predefined ones provides them, then these imports are those from the package in the end, at the same
place: between what comes of the text before them and of the text behind. -/
theorem run_resolves_runtime (hruntime : g.runtimeImport = defaultRuntimeImport)
    (hmodules : g.modules = user ++ predefined) (huser : LeaveRuntime user)
    (h : (g.run s).run w = (.ok (), w')) (hfiles : s.files = some files) (hf : some f ∈ files)
    {m : MessageType} (hm : f.Parses m)
    (hlacks : ∀ path, g.jsPath f = .ok path → g.LacksRuntimeAt files path w'.files) :
    ∃ path f' js parsers earlier later v,
      g.jsPath f = .ok path ∧ some f' ∈ files ∧ g.jsPath f' = .ok path ∧ f'.jsFile = .ok js ∧
      (g.appendCode s).run w = (.ok (), v) ∧
      v.files.content (w.files.destination path) =
        w.files.content (w.files.destination path) ++ earlier ++
          File.parsersText (Naming.pathToRoot js ++ defaultRuntimeImport) parsers ++ later ∧
      Holds (g.resolver w'.files) (w.files.destination path)
        (w.files.content (w.files.destination path) ++ earlier ++
          ("\n// " ++ generatedMarker ++ "\n\n"))
        (runtimeImports runtimePackage)
        (String.join (parsers.map (· ++ "\n")) ++ later) w'.files := by
  obtain ⟨v, happend, hfinish⟩ := run_eq_ok_iff.1 h
  obtain ⟨path, f', m', js, parsers, rest, hpath, hf', hm', hpath', hjs, happended⟩ :=
    exists_parsersText hfiles happend hf hm
  rw [hruntime] at happended
  have hne : g.appended s path ≠ "" := by
    rw [happended, parsersText_eq]
    simp
  obtain ⟨code, -, honce⟩ := appendsOnce_of_appendCode happend
  obtain ⟨earlier, later, hcontent⟩ := honce.exists_content hne
  rw [happended] at hcontent
  have hplaces : w'.files.destination = w.files.destination :=
    (destination_of_finish hfiles hfinish).trans (funext honce.destination)
  have hfed : IsFed ("\n// " ++ generatedMarker ++ "\n\n") := by
    rw [IsFed, String.toList_append, List.getLast?_append]
    rfl
  -- the imports stand between what is there before them and the parsers
  have hholds : Holds (g.resolver w'.files) (w.files.destination path)
      (w.files.content (w.files.destination path) ++ earlier ++
        ("\n// " ++ generatedMarker ++ "\n\n"))
      (runtimeImports (Naming.pathToRoot js ++ defaultRuntimeImport))
      (String.join (parsers.map (· ++ "\n")) ++ (rest ++ later)) v.files := by
    refine ⟨_, _, ?_, hfed.append _, .refl, .refl⟩
    rw [hcontent, parsersText_eq]
    simp only [String.append_assoc]
  have hempty : v.files.content (w.files.destination path) ≠ "" := by
    rw [hcontent, parsersText_eq]
    simp
  obtain ⟨hturns, hstays⟩ := turnsAt_runtimeImports js hmodules huser hpath
    (hlacks path hpath f' m' js hf' hm' hpath' hjs)
  rw [hplaces] at hturns hstays
  obtain ⟨hshort, hway⟩ := opened_of_appendCode happend hne
  refine ⟨path, f', js, parsers, earlier, rest ++ later, v, hpath, hf', hpath', hjs, happend, ?_,
    holds_of_finish hfiles hfinish hf hpath (honce.destination path) hshort hway hempty hturns hstays
      hholds⟩
  rw [hcontent]
  simp only [String.append_assoc]

example : runtimeImports runtimePackage =
    "let ObjectParser = require('spine-web/client/parser/object-parser.js').default;\n" ++
      "let TypeParsers = require('spine-web/client/parser/type-parsers.js').default;\n" := by
  decide +kernel

/-! ### A file two directories deep -/

/-- A schema file with a message, two directories deep. -/
def deepFile : File :=
  { name := some "a/b/note.proto"
    messages := some [some (.mk (some "Note") (some []) (some []) (some []))] }

/-- The set of this file. -/
def deepFiles : FileSet := ⟨some [some deepFile]⟩

/-- A module of the user. -/
def acmeModule : Module := ⟨"acme-web", [withNested ["acme", "web"]]⟩

/-- A generation in a directory without files, with this module. -/
def deepGeneration : Generation := { jsRoot := ⟨.here, ["js"]⟩, modules := [acmeModule] ++ predefined }

/-- The path of the compiled file. -/
def deepPath : Path := ⟨.here, ["js", "a", "b", "note_pb.js"]⟩

/-- The tree with the directories of the file. -/
def deepDirectories : FileTree :=
  { nodes := [(["js"], .directory), (["js", "a"], .directory), (["js", "a", "b"], .directory)] }

/-- The tree with the code of the file. -/
def deepTree (code : String) : FileTree :=
  deepDirectories.put ["js", "a", "b", "note_pb.js"] (.file code)

/-- The tree with the index, too. -/
def deepListed (code index : String) : FileTree := (deepTree code).put ["js", "index.js"] (.file index)

/-- The place of the runtime sources, seen from the file. -/
def deepPlace : String := "../../../client/parser/"

/-- The code of the file is put together from imports of the runtime sources and settled lines. -/
theorem rendered_deep : ∃ (path : Path) (place : String) (parser urls : Code.Writer),
    deepGeneration.rendered deepFiles =
        .ok [[(path, File.parsersText place [parser.draft])], [(path, urls.draft ++ "\n")]] ∧
      path = deepPath ∧ place = deepPlace ∧ parser.rendered ≠ [] ∧ urls.rendered ≠ [] ∧
      ∀ line ∈ ["", "// " ++ generatedMarker] ++ parser.rendered ++ urls.rendered,
        IsSettledLine line :=
  ⟨_, _, _, _, rfl, by decide +kernel⟩

theorem run_appendAll_deep (parsers urls : String) :
    (appendAll [[(deepPath, parsers)], [(deepPath, urls)]]).run { files := {} } =
      (.ok (), { files := deepTree ("" ++ (parsers ++ urls)), records := [.appended deepPath] }) := by
  have hmerge : Rendered.merge [[(deepPath, parsers)], [(deepPath, urls)]] =
      [(deepPath, parsers ++ urls)] := rfl
  have hmade : ({} : FileTree).makeDirectories deepPath.parent = (.ok (), deepDirectories) := rfl
  have happend : ∀ text, deepDirectories.appendText deepPath text = .ok (deepTree ("" ++ text)) :=
    fun _ => rfl
  rw [appendAll, hmerge]
  exact Session.run_bind_eq_ok.2 ⟨(), _, run_append hmade (happend _), rfl⟩

theorem run_writeIndex_deep (code : String) (records : List Record) : ∃ index records',
    (deepGeneration.writeIndex deepFiles).run { files := deepTree code, records := records } =
      (.ok deepGeneration.indexPath, { files := deepListed code index, records := records' }) := by
  obtain ⟨index, hindex⟩ : ∃ index, deepFiles.renderIndex = .ok index := ⟨_, rfl⟩
  have hpath : deepGeneration.indexPath = ⟨.here, ["js", "index.js"]⟩ := by decide
  have hmade : (deepTree code).makeDirectories deepGeneration.indexPath.parent =
      (.ok (), deepTree code) := by
    rw [hpath]
    rfl
  have hwrite : (deepTree code).writeText deepGeneration.indexPath index =
      .ok (deepListed code index) := by
    rw [hpath]
    rfl
  exact ⟨index, _, run_writeIndex hmade hindex hwrite⟩

/-- The runtime sources are missing in the tree with the index. -/
theorem lacksRuntime_deep (code index : String) :
    LacksRuntime (deepListed code index) deepPath.parent deepPlace := by
  have hmissing : ∀ {reference : String} {l : Location},
      FileTree.destination {} (deepPath.parent.join (Path.read reference)) = l →
        (deepListed code index).find? l = none →
        IsMissing (deepListed code index) deepPath.parent reference := by
    intro reference l hl hnone
    refine isVacant_of_find? ?_
    rw [← hl] at hnone
    exact hnone
  intro source hsource
  simp only [runtimeSources, List.mem_cons, List.not_mem_nil, or_false] at hsource
  rcases hsource with rfl | rfl
  · exact ⟨hmissing (l := ["client", "parser", "object-parser.js"]) (by decide +kernel) rfl,
      hmissing (l := ["main", "client", "parser", "object-parser.js"]) (by decide +kernel) rfl⟩
  · exact ⟨hmissing (l := ["client", "parser", "type-parsers.js"]) (by decide +kernel) rfl,
      hmissing (l := ["main", "client", "parser", "type-parsers.js"]) (by decide +kernel) rfl⟩

/-- In the code of the file each import can be resolved. -/
theorem isResolvable_deep {parser urls : Code.Writer} (hparser : parser.rendered ≠ [])
    (hurls : urls.rendered ≠ [])
    (hlines : ∀ line ∈ ["", "// " ++ generatedMarker] ++ parser.rendered ++ urls.rendered,
      IsSettledLine line) (code index : String) :
    (deepGeneration.resolver (deepListed code index)).IsResolvable deepPath.parent
      ("" ++ (File.parsersText deepPlace [parser.draft] ++ (urls.draft ++ "\n"))) := by
  have himport : ∀ {name source : String}, isClean ("let " ++ name ++ " = ").toList = true →
      source ∈ runtimeSources →
      (deepGeneration.resolver (deepListed code index)).IsResolvable deepPath.parent
        (File.runtimeImport name (deepPlace ++ source)) := by
    intro name source hname hsource
    have hfiles : ∀ source ∈ runtimeSources, isClean (deepPlace ++ source).toList = true ∧
        (runtimeStatement deepPath.parent "" (deepPlace ++ source)).isRelative = true ∧
        (runtimeStatement deepPath.parent "" (deepPlace ++ source)).importedFile =
          ⟨.here, ["client", "parser", source]⟩ ∧
        (runtimeStatement deepPath.parent "" (deepPlace ++ source)).inMainSources.importedFile =
          ⟨.here, ["..", "main", "client", "parser", source]⟩ := by
      decide +kernel
    obtain ⟨hpath, hrelative, hbeside, hmain⟩ := hfiles source hsource
    have hlook : ∀ p ∈ [Path.mk .here ["client", "parser", source],
        Path.mk .here ["..", "main", "client", "parser", source]],
        (deepListed code index).lookFault? p = none := by
      simp only [runtimeSources, List.mem_cons, List.not_mem_nil, or_false] at hsource
      rcases hsource with rfl | rfl <;> rintro p (_ | ⟨_, _ | ⟨_, ⟨⟩⟩⟩) <;> rfl
    refine isResolvable_runtimeImport hname hpath (checked_eq_ok_resolve hrelative ?_ ?_)
    · rw [Resolver.faultOf?]
      exact hbeside ▸ hlook _ (by simp)
    · rw [Resolver.faultOf?]
      exact hmain ▸ hlook _ (by simp)
  have hhead : "\n// " ++ generatedMarker ++ "\n\n" =
      String.intercalate "\n" ["", "// " ++ generatedMarker, ""] ++ "\n" := by
    decide +kernel
  rw [String.empty_append, parsersText_eq, hhead, List.map_singleton, String.join_cons,
    String.join_nil, String.append_empty]
  refine .append (.append (.append (.of_isStill ?_) (.append ?_ ?_)) (.of_isStill ?_))
    (.of_isStill ?_)
  · refine .of_lines (List.cons_ne_nil _ _) fun line hline => hlines line ?_
    simp only [List.mem_cons, List.not_mem_nil, or_false] at hline
    rcases hline with rfl | rfl | rfl <;> simp
  · exact himport (by decide) (by decide)
  · exact himport (by decide) (by decide)
  · exact .of_lines hparser fun line hline => hlines line (by simp [hline])
  · exact .of_lines hurls fun line hline => hlines line (by simp [hline])

theorem jsPath_deep : deepGeneration.jsPath deepFile = .ok deepPath := by decide +kernel

theorem exists_run_resolveCompiled_deep {code index : String} (records : List Record)
    (h : (deepGeneration.resolver (deepListed code index)).IsResolvable deepPath.parent code) :
    ∃ changed v, (deepGeneration.resolveCompiled (some deepFile)).run
      { files := deepListed code index, records := records } = (.ok changed, v) := by
  have hread : (deepListed code index).readText deepPath =
      .ok (String.ofList (foldEndings code.toList)) := rfl
  have hlook : (deepListed code index).lookFault? deepPath = none := rfl
  have hpresent : (deepListed code index).isPresent deepPath = true := rfl
  obtain ⟨resolved, hresolved⟩ := h.exists_resolveText
  obtain ⟨changed, v, hv⟩ := exists_run_resolveFile
    (w := { files := deepListed code index, records := records }) hread hresolved
  refine ⟨if changed then some deepPath else none, v, run_resolveCompiled jsPath_deep hlook ?_⟩
  rw [hpresent]
  exact Session.run_bind_eq_ok.2 ⟨changed, v, hv, rfl⟩

theorem run_deep : ∃ code index w',
    (deepGeneration.run deepFiles).run { files := {} } = (.ok (), w') ∧
      SameShape (deepListed code index) w'.files := by
  obtain ⟨path, place, parser, urls, hrendered, rfl, rfl, hparser, hurls, hlines⟩ := rendered_deep
  have hresolvable := isResolvable_deep hparser hurls hlines
  have happend := run_appendAll_deep (File.parsersText deepPlace [parser.draft]) (urls.draft ++ "\n")
  generalize "" ++ (File.parsersText deepPlace [parser.draft] ++ (urls.draft ++ "\n")) = code
    at happend hresolvable
  obtain ⟨index, records, hindex⟩ := run_writeIndex_deep code [.appended deepPath]
  obtain ⟨changed, w', hresolve⟩ :=
    exists_run_resolveCompiled_deep records (hresolvable code index)
  have hcode : (deepGeneration.appendCode deepFiles).run { files := {} } =
      (.ok (), { files := deepTree code, records := [.appended deepPath] }) :=
    Session.run_bind_eq_ok.2 ⟨_, _, Session.run_demand_eq_ok.2 ⟨hrendered, rfl⟩, happend⟩
  have hall : ([some deepFile].mapM deepGeneration.resolveCompiled).run
      { files := deepListed code index, records := records } = (.ok [changed], w') := by
    rw [List.mapM_cons, List.mapM_nil]
    exact Session.run_bind_eq_ok.2 ⟨changed, w', hresolve, rfl⟩
  have himports : (deepGeneration.resolveImports deepFiles).run
      { files := deepListed code index, records := records } =
        (.ok ([changed].filterMap id), w') :=
    Session.run_bind_eq_ok.2 ⟨[some deepFile], _, rfl,
      Session.run_bind_eq_ok.2 ⟨[changed], w', hall, rfl⟩⟩
  have hfinish : (deepGeneration.finish deepFiles).run
      { files := deepTree code, records := [.appended deepPath] } = (.ok (), w') :=
    Session.run_bind_eq_ok.2 ⟨_, _, hindex, Session.run_bind_eq_ok.2 ⟨_, w', himports, rfl⟩⟩
  exact ⟨code, index, w', run_eq_ok_iff.2 ⟨_, hcode, hfinish⟩, sameShape_of_resolveCompiled hresolve⟩

theorem run_resolves_runtime_deep : ∃ w' before after,
    (deepGeneration.run deepFiles).run { files := {} } = (.ok (), w') ∧
      w'.files.content ["js", "a", "b", "note_pb.js"] =
        before ++ runtimeImports "spine-web/client/parser/" ++ after := by
  obtain ⟨code, index, w', hrun, hshape⟩ := run_deep
  have huser : LeaveRuntime [acmeModule] := by
    intro m hm reference hdirectory
    obtain rfl := List.mem_singleton.1 hm
    rw [Module.provides, Module.patternFor?, hdirectory]
    rfl
  obtain ⟨m, htypes⟩ : ∃ m, deepFile.targetTypes MessageType.isEligible = .ok [m] := ⟨_, rfl⟩
  have hm := (File.mem_targetTypes_iff htypes m).1 (List.mem_singleton.2 rfl)
  have hplace : ∀ js, deepFile.jsFile = .ok js →
      Naming.pathToRoot js ++ defaultRuntimeImport = deepPlace := by
    intro js hjs
    have hname : deepFile.jsFile = .ok "a/b/note_pb.js" := by decide +kernel
    obtain rfl := Except.ok.inj (hname.symm.trans hjs)
    decide +kernel
  have hlacks : ∀ path, deepGeneration.jsPath deepFile = .ok path →
      deepGeneration.LacksRuntimeAt [some deepFile] path w'.files := by
    intro path hpath f' m' js hf' _ _ hjs
    obtain rfl := Option.some.inj (List.mem_singleton.1 hf')
    obtain rfl := Except.ok.inj (jsPath_deep.symm.trans hpath)
    rw [hplace js hjs]
    intro source hsource
    obtain ⟨hbeside, hmain⟩ := lacksRuntime_deep code index source hsource
    exact ⟨isMissing_of_sameShape hshape.symm hbeside, isMissing_of_sameShape hshape.symm hmain⟩
  obtain ⟨path, _, _, _, _, _, _, hpath, -, -, -, -, -, before, after, hfinal, -, -, -⟩ :=
    run_resolves_runtime rfl rfl huser hrun rfl (List.mem_singleton.2 rfl) hm hlacks
  obtain rfl := Except.ok.inj (jsPath_deep.symm.trans hpath)
  exact ⟨w', before, after, hrun, hfinal⟩

end Protogen.Generation
