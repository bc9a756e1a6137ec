import Protogen.Output.File
import Protogen.Proofs.FileTree.Alike
import Protogen.Proofs.FileTree.Destination
import Protogen.Proofs.Import.Idempotence

/-!
# Imports of the runtime sources

The way from a compiled file to its root consists of markers, which a reference is split without: at
every depth the runtime sources are referenced in the same directory.

* `isRelative_pathToRoot`, `isClean_pathToRoot` and `split_pathToRoot` are what matters of the way.
* `destination_importedFile` is where a relative import leads, `IsMissing` says that nothing is there.
* `resolve_runtime`: the import of a runtime source that is missing, also among the main sources, is
  resolved to `runtimePackage`, behind all modules that do not provide it.
-/

set_option autoImplicit false

namespace Protogen.Import

open Text

/-! ## Ways to the root -/

variable {path source : String}

theorem pathToRoot_cases (file : String) :
    Naming.pathToRoot file = "./" ∨
      ∃ n, Naming.pathToRoot file = "../" ++ String.join (List.replicate n "../") := by
  unfold Naming.pathToRoot
  dsimp only
  split
  · exact .inl rfl
  · rename_i hdepth
    obtain ⟨n, hn⟩ := Nat.exists_eq_succ_of_ne_zero hdepth
    exact .inr ⟨n, by rw [hn, List.replicate_succ, String.join_cons]⟩

/-- A marker in front is not part of a reference. -/
theorem split_marker {marker : String} (hmarker : Text.split '/' marker = [marker])
    (hname : isDirectoryName marker = false) (path : String) :
    Reference.split (marker ++ "/" ++ path) = Reference.split path := by
  have hne : Text.split '/' path ≠ [] := by
    unfold Text.split
    exact mt List.map_eq_nil_iff.1 (List.splitOnP_ne_nil _ _)
  obtain ⟨name, names, hnames⟩ := List.exists_cons_of_ne_nil hne
  unfold Reference.split
  rw [Path.split_slash, hmarker, hnames]
  simp only [List.singleton_append, List.dropLast_cons_cons, List.filter_cons, hname]
  rfl

theorem split_up (n : Nat) (path : String) :
    Reference.split (String.join (List.replicate n "../") ++ path) = Reference.split path := by
  induction n with
  | zero => rw [List.replicate_zero, String.join_nil, String.empty_append]
  | succ n ih =>
    have hmarker : "../" = ".." ++ "/" := by decide
    rw [List.replicate_succ, String.join_cons, String.append_assoc, hmarker,
      split_marker (by decide) (by decide), ← hmarker, ih]

theorem split_pathToRoot (file path : String) :
    Reference.split (Naming.pathToRoot file ++ path) = Reference.split path := by
  rcases pathToRoot_cases file with hway | ⟨n, hway⟩
  · have hmarker : "./" = "." ++ "/" := by decide
    rw [hway, hmarker, split_marker (by decide) (by decide)]
  · have hmarker : "../" ++ String.join (List.replicate n "../") =
        String.join (List.replicate (n + 1) "../") := by
      rw [List.replicate_succ, String.join_cons]
    rw [hway, hmarker, split_up]

theorem isRelative_pathToRoot {s : Statement} {file : String}
    (h : s.path = Naming.pathToRoot file ++ path) : s.isRelative = true := by
  simp only [Statement.isRelative, Bool.or_eq_true, startsWith_iff, h]
  rcases pathToRoot_cases file with hway | ⟨n, hway⟩
  · exact .inl ⟨path.toList, by rw [hway, String.toList_append]⟩
  · refine .inr ⟨(String.join (List.replicate n "../") ++ path).toList, ?_⟩
    rw [hway, String.append_assoc, String.toList_append]

theorem isClean_pathToRoot (file : String) : isClean (Naming.pathToRoot file).toList = true := by
  have hup : ∀ n, isClean (String.join (List.replicate n "../")).toList = true := by
    intro n
    induction n with
    | zero => rfl
    | succ n ih =>
      rw [List.replicate_succ, String.join_cons, String.toList_append, isClean_append]
      exact ⟨by decide, ih⟩
  unfold Naming.pathToRoot
  dsimp only
  split
  · decide
  · exact hup _

/-! ## Where imports lead -/

variable {t : FileTree} {l : Location} {r : Resolver} {s : Statement}

/-- Whether nothing is found at a location, on any path that leads there. -/
def IsVacant (t : FileTree) (l : Location) : Prop :=
  ∀ p, t.destination p = l → t.isPresent p = false

theorem isVacant_of_find? (h : t.find? l = none) : IsVacant t l := by
  rintro p rfl
  unfold FileTree.isPresent FileTree.nodeAt?
  cases hlocate : t.locate p with
  | error fault => rfl
  | ok k =>
    obtain rfl := FileTree.locate_eq_ok hlocate
    simp only [h, Option.isSome_none]

theorem isAbsolute_of_isRelative (h : s.isRelative = true) : (Path.read s.path).isAbsolute = false := by
  have hhead : s.path.toList.head? = some '.' := by
    simp only [Statement.isRelative, Bool.or_eq_true, startsWith_iff] at h
    rcases h with ⟨rest, hpath⟩ | ⟨rest, hpath⟩
    · rw [hpath]
      rfl
    · rw [hpath]
      rfl
  rw [Bool.eq_false_iff, ne_eq, Path.isAbsolute_read_iff, hhead]
  decide

/-- A relative import leads on from the directory of its file. -/
theorem destination_importedFile (t : FileTree) (h : s.isRelative = true) :
    t.destination s.importedFile =
      (Path.partsOf s.path).foldl FileTree.follow (t.destination s.directory) := by
  rw [Statement.importedFile, FileTree.destination_normalize,
    FileTree.destination_join t _ (isAbsolute_of_isRelative h), Path.parts_read]

/-- Whether nothing is where a reference leads from a directory. -/
def IsMissing (t : FileTree) (directory : Path) (reference : String) : Prop :=
  IsVacant t (t.destination (directory.join (Path.read reference)))

/-- What is missing from a directory is not found from any path that names the same directory. -/
theorem not_finds_of_isMissing {directory root : Path} {modules : List Module}
    (hrelative : s.isRelative = true)
    (hdirectory : t.destination s.directory = t.destination directory)
    (h : IsMissing t directory s.path) : (resolverFor t root modules).finds s = false := by
  refine h _ ?_
  rw [destination_importedFile t hrelative, hdirectory,
    FileTree.destination_join t _ (isAbsolute_of_isRelative hrelative), Path.parts_read]

theorem isMissing_of_sameShape {u : FileTree} (h : FileTree.SameShape t u) {directory : Path}
    {reference : String} (hmissing : IsMissing u directory reference) :
    IsMissing t directory reference := by
  intro p hp
  rw [← h.isPresent]
  refine hmissing p ?_
  rw [h.destination, h.destination, hp]

/-! ## Modules -/

theorem firstProviding_append {modules : List Module} {reference : String} {m : Module}
    (h : ∀ m ∈ modules, m.provides reference = false) (more : List Module)
    (hm : m.provides reference = true) :
    firstProviding (modules ++ m :: more) reference = some m := by
  have hnone : modules.find? (·.provides reference) = none :=
    List.find?_eq_none.2 fun m hm => Bool.eq_false_iff.1 (h m hm)
  rw [firstProviding, List.find?_append, hnone, Option.none_or]
  exact List.find?_cons_of_pos hm

/-- An import of a file that is found neither beside the importing one nor among the main sources is
resolved to the first module that provides it. -/
theorem resolve_of_firstProviding {m : Module} {file : String} (hrelative : s.isRelative = true)
    (hbeside : r.finds s = false) (hmain : r.finds s.inMainSources = false)
    (hm : firstProviding r.modules s.path = some m) (hfile : m.fileIn? s.path = some file) :
    r.resolve s = s.replacePath file := by
  have hlocal := Resolver.localize_of_not_isWellKnown (r := r) (isWellKnown_of_isRelative hrelative)
  simp only [Resolver.resolve, hlocal, Resolver.isUnresolved, hrelative, hbeside, Resolver.inMain?,
    hmain, Resolver.inModules, hm, Option.bind_some, hfile]
  rfl

/-- An import can be resolved if the files that are looked for can be looked at. -/
theorem checked_eq_ok_resolve (hrelative : s.isRelative = true) (hbeside : r.faultOf? s = none)
    (hmain : r.faultOf? s.inMainSources = none) : r.checked s = .ok (r.resolve s) := by
  have hlocal := Resolver.localize_of_not_isWellKnown (r := r) (isWellKnown_of_isRelative hrelative)
  refine Resolver.checked_eq_ok_iff.2 ⟨fun t ht => ?_, rfl⟩
  simp only [Resolver.looks, hlocal, hrelative, if_true] at ht
  split at ht
  · rw [List.mem_singleton.1 ht, hbeside]
  · simp only [List.mem_cons, List.not_mem_nil, or_false] at ht
    rcases ht with rfl | rfl
    · exact hbeside
    · exact hmain

/-! ## Runtime sources -/

/-- The directory of the runtime sources. -/
def runtimeDirectory : List String := ["client", "parser"]

/-- The place of the runtime sources in the package that provides them. -/
def runtimePackage : String := "spine-web/client/parser/"

/-- The runtime sources. -/
def runtimeSources : List String := ["object-parser.js", "type-parsers.js"]

/-- Modules that leave the runtime sources to those behind them. -/
def LeaveRuntime (modules : List Module) : Prop :=
  ∀ m ∈ modules, ∀ reference,
    (Reference.split reference).directory = runtimeDirectory → m.provides reference = false

/-- Whether the runtime sources are missing both on a way from a directory and among the main
sources. -/
def LacksRuntime (t : FileTree) (directory : Path) (way : String) : Prop :=
  ∀ source ∈ runtimeSources,
    IsMissing t directory (way ++ source) ∧ IsMissing t directory (mainPath (way ++ source))

theorem split_runtime (file : String) (hsource : source ∈ runtimeSources) :
    Reference.split (Naming.pathToRoot file ++ defaultRuntimeImport ++ source) =
      ⟨runtimeDirectory, source⟩ := by
  rw [String.append_assoc, split_pathToRoot]
  simp only [runtimeSources, List.mem_cons, List.not_mem_nil, or_false] at hsource
  rcases hsource with rfl | rfl <;> decide +kernel

/-- The package has the pattern of the runtime sources first, so no other one is used for them. -/
theorem fileIn?_runtime {reference : String}
    (h : Reference.split reference = ⟨runtimeDirectory, source⟩) :
    spineWeb.provides reference = true ∧
      spineWeb.fileIn? reference = some (runtimePackage ++ source) := by
  have hpattern : spineWeb.patternFor? reference = some ⟨runtimeDirectory, false⟩ := by
    rw [Module.patternFor?, h]
    rfl
  refine ⟨by rw [Module.provides, hpattern]; rfl, ?_⟩
  have hinside : (Pattern.mk runtimeDirectory false).inside? runtimeDirectory =
      some runtimeDirectory := by
    decide
  have hpackage : runtimePackage = "spine-web" ++ "/" ++ ("client" ++ "/" ++ ("parser" ++ "/")) := by
    decide +kernel
  simp only [Module.fileIn?, hpattern, h, hinside, Option.bind_eq_bind, Option.bind_some,
    Option.pure_def]
  rw [hpackage]
  simp only [runtimeDirectory, List.cons_append, List.nil_append, String.intercalate_cons_cons,
    String.intercalate_singleton, String.append_assoc]
  rfl

/-- The import of a missing runtime source is resolved to the package that provides it, from whatever
depth. -/
theorem resolve_runtime {user : List Module} {file : String} (hmodules : r.modules = user ++ predefined)
    (huser : LeaveRuntime user) (hsource : source ∈ runtimeSources)
    (hpath : s.path = Naming.pathToRoot file ++ defaultRuntimeImport ++ source)
    (hbeside : r.finds s = false) (hmain : r.finds s.inMainSources = false) :
    r.resolve s = s.replacePath (runtimePackage ++ source) := by
  have hsplit : Reference.split s.path = ⟨runtimeDirectory, source⟩ := by
    rw [hpath, split_runtime file hsource]
  obtain ⟨hprovides, hfile⟩ := fileIn?_runtime hsplit
  refine resolve_of_firstProviding (m := spineWeb) ?_ hbeside hmain ?_ hfile
  · rw [String.append_assoc] at hpath
    exact isRelative_pathToRoot hpath
  · rw [hmodules]
    exact firstProviding_append (fun m hm => huser m hm _ (by rw [hsplit])) [spineUsers] hprovides

/-- In the package the runtime sources stay where they are. -/
theorem resolve_runtimePackage (hpath : s.path = runtimePackage ++ source) : r.resolve s = s := by
  have hstart : ∀ {start rest : List Char}, runtimePackage.toList ++ source.toList = start ++ rest →
      start.head? = some 's' ∨ start = [] := by
    intro start rest heq
    cases start with
    | nil => exact .inr rfl
    | cons c start =>
      obtain ⟨hc, -⟩ := List.cons_eq_cons.1 heq
      exact .inl (by rw [← hc]; rfl)
  have hnot : ∀ start : String, start.toList.head? ≠ some 's' → start.toList ≠ [] →
      startsWith start s.path = false := by
    intro start hhead hne
    rw [Bool.eq_false_iff, ne_eq, startsWith_iff, hpath, String.toList_append]
    rintro ⟨rest, heq⟩
    exact (hstart heq).elim hhead hne
  have hrelative : s.isRelative = false := by
    rw [Statement.isRelative, hnot "./" (by decide) (by decide), hnot "../" (by decide) (by decide)]
    rfl
  have hwell : s.isWellKnown = false := hnot wellKnownStart (by decide) (by decide)
  simp [Resolver.resolve, Resolver.localize_of_not_isWellKnown hwell, Resolver.isUnresolved,
    hrelative]

end Protogen.Import
