import Protogen.Proofs.Import.Replacement
import Protogen.Proofs.Path

/-!
# Imports of standard types

The package of the standard types is replaced by the way from the importing directory to the
generation root.

* `HasPlainRoot` says that this way can be written and read back: `read_standardReplacement`.
* `settled_relativize`: the import that is made relative stands for the file under the generation
  root.
* `IsBelow` are the generation roots inside the importing directory; `isRelative_relativize_iff`
  says that the way to them, and to no others, is no relative path.
* `resolve_isWellKnown` tells what an import of a standard type ends as.
-/

set_option autoImplicit false

namespace Protogen.Import

open Text

namespace Resolver

variable {r : Resolver} {s : Statement} {directory : Path} {q : String}

/-! ## The way to the generation root -/

/-- Whether the generation root, seen from the root of all paths, lies in directories with names
without backslashes. -/
def HasPlainRoot (r : Resolver) : Prop :=
  ∀ name ∈ r.root.absolute r.workingDirectory, Path.IsName name ∧ '\\' ∉ name.toList

/-- A text without backslashes is that of a plain root in a working directory that is plain. -/
theorem hasPlainRoot_of_read {text : String} (hroot : r.root = Path.read text)
    (htext : '\\' ∉ text.toList)
    (hdirectory : ∀ name ∈ r.workingDirectory, Path.IsName name ∧ '\\' ∉ name.toList) :
    r.HasPlainRoot := by
  intro name hname
  rcases Path.mem_absolute hname with hworking | hparts
  · exact hdirectory name hworking
  · rw [hroot] at hparts
    refine ⟨Path.isName_of_mem_partsOf hparts, fun hbackslash => htext ?_⟩
    obtain ⟨hsplit, -⟩ := List.mem_filter.1 hparts
    obtain ⟨piece, hpiece, rfl⟩ := List.mem_map.1 hsplit
    have hinfix := infix_intercalate hpiece ['/']
    rw [List.intercalate_splitOn] at hinfix
    rw [String.toList_ofList] at hbackslash
    exact hinfix.subset hbackslash

/-- The names of the way to the generation root. -/
def way (r : Resolver) (directory : Path) : List String :=
  (Path.relative r.workingDirectory directory r.root).parts

theorem isName_of_mem_way (h : r.HasPlainRoot) {name : String} (hname : name ∈ r.way directory) :
    Path.IsName name ∧ '\\' ∉ name.toList := by
  rcases List.mem_append.1 hname with hup | hdown
  · obtain rfl := List.eq_of_mem_replicate hup
    exact ⟨⟨by decide, by decide⟩, by decide⟩
  · exact h name (divergence_subset _ _ hdown)

/-- What the package is replaced with: the names of the way and a slash behind each. -/
theorem standardReplacement_eq (h : r.HasPlainRoot) (directory : Path) :
    r.standardReplacement directory =
      if r.way directory = [] then "./" else String.intercalate "/" (r.way directory) ++ "/" := by
  have hparts : (Path.relative r.workingDirectory directory r.root).parts = r.way directory := rfl
  have hanchor : (Path.relative r.workingDirectory directory r.root).anchor = .here := rfl
  simp only [standardReplacement, hparts, List.isEmpty_iff]
  split
  · rfl
  · rename_i hne
    have htext : (Path.relative r.workingDirectory directory r.root).text =
        String.intercalate "/" (r.way directory) := by
      unfold Path.text
      rw [hanchor, hparts]
      obtain ⟨name, names, hnames⟩ := List.exists_cons_of_ne_nil hne
      rw [hnames]
      exact String.empty_append
    have hplain : (String.intercalate "/" (r.way directory)).toList.all (· != '\\') = true := by
      refine all_intercalate (by decide) fun name hname => ?_
      rw [List.all_eq_true]
      intro c hc
      have hbackslash := (isName_of_mem_way h hname).2
      simp only [bne_iff_ne, ne_eq]
      rintro rfl
      exact hbackslash hc
    have hsame : (String.intercalate "/" (r.way directory)).toList.map
        (fun c => if c == '\\' then '/' else c) =
          (String.intercalate "/" (r.way directory)).toList := by
      refine (List.map_congr_left fun c hc => ?_).trans (List.map_id _)
      have hne : c ≠ '\\' := by simpa using List.all_eq_true.1 hplain c hc
      simp [hne]
    rw [htext, hsame, String.ofList_toList]

/-- A way with a name has the name in front of a slash. -/
theorem toList_intercalate_cons (name : String) (names : List String) (rest : List Char) :
    ∃ more, (String.intercalate "/" (name :: names) ++ "/").toList ++ rest =
      name.toList ++ '/' :: more := by
  cases names with
  | nil => exact ⟨rest, by simp⟩
  | cons other names =>
    rw [String.intercalate_cons_cons]
    exact ⟨(String.intercalate "/" (other :: names) ++ "/").toList ++ rest, by simp⟩

/-- The way and what stands behind it are read back. -/
theorem read_standardReplacement (h : r.HasPlainRoot) (directory : Path) (q : String) :
    Path.read (r.standardReplacement directory ++ q) =
      ⟨.here, r.way directory ++ Path.partsOf q⟩ := by
  rw [standardReplacement_eq h]
  unfold Path.read
  by_cases hway : r.way directory = []
  · have hdot : Path.partsOf "." = [] := by decide
    have htext : "./" ++ q = "." ++ "/" ++ q := by
      rw [← String.toList_inj]
      simp
    rw [if_pos hway, hway, Path.anchorOf_eq_here (by simp), htext, Path.partsOf_slash, hdot]
  · rw [if_neg hway, Path.partsOf_slash,
      Path.partsOf_intercalate fun name hname => (isName_of_mem_way h hname).1]
    obtain ⟨name, names, hnames⟩ := List.exists_cons_of_ne_nil hway
    have hname := (isName_of_mem_way h (hnames ▸ List.mem_cons_self ..)).1
    have hhead : (String.intercalate "/" (r.way directory) ++ "/" ++ q).toList.head? ≠ some '/' := by
      obtain ⟨more, hmore⟩ := toList_intercalate_cons name names q.toList
      rw [String.toList_append, hnames, hmore]
      cases htext : name.toList with
      | nil =>
        have hempty : name = "" := String.toList_inj.1 (by rw [htext]; rfl)
        have hcounts := hname.counts
        rw [hempty] at hcounts
        exact absurd hcounts (by decide)
      | cons c text =>
        have hslash := hname.noSlash
        rw [htext, List.mem_cons, not_or] at hslash
        simpa using fun heq => hslash.1 heq.symm
    rw [Path.anchorOf_eq_here hhead]

theorem relativize_eq (hpath : s.path = standardModule ++ q) :
    r.relativize s = s.replacePath (r.standardReplacement s.directory ++ q) := by
  have hpaths : (r.relativize s).path = r.standardReplacement s.directory ++ q := by
    rw [← String.toList_inj, String.toList_append]
    exact relativize_path (by rw [hpath, String.toList_append])
  show s.replacePath (r.relativize s).path = _
  rw [hpaths]

/-- The import of a standard type that is made relative stands for the file under the generation
root, and that is the file that is looked up. -/
theorem settled_relativize (hroot : r.HasPlainRoot) (hpath : s.path = standardModule ++ q)
    (hwell : s.isWellKnown = true) (hdirectory : s.directory.anchor ≠ .doubleRoot)
    (hanchor : r.root.anchor ≠ .doubleRoot) :
    (s.directory.join (Path.read (r.relativize s).path)).settled r.workingDirectory =
        (r.root.join (Path.read q)).settled r.workingDirectory ∧
      (r.relativize s).importedFile.settled r.workingDirectory =
        (r.root.join (Path.read q)).settled r.workingDirectory := by
  have hq : Path.read q = ⟨.here, Path.partsOf q⟩ := by
    obtain ⟨rest, hrest⟩ := isWellKnown_iff.1 hwell
    rw [hpath, String.toList_append, List.append_cancel_left_eq] at hrest
    have hhead : q.toList.head? ≠ some '/' := by
      rw [hrest]
      exact ne_of_eq_of_ne rfl (by decide : some 'g' ≠ some '/')
    unfold Path.read
    rw [Path.anchorOf_eq_here hhead]
  have hread : Path.read (r.relativize s).path =
      ⟨.here, r.way s.directory ++ Path.partsOf q⟩ := by
    rw [relativize_eq hpath]
    exact read_standardReplacement hroot s.directory q
  have hjoined : (s.directory.join (Path.read (r.relativize s).path)).settled r.workingDirectory =
      (r.root.join (Path.read q)).settled r.workingDirectory := by
    rw [hread, hq]
    exact Path.settled_relative
      ((Path.anchor_settled hdirectory).trans (Path.anchor_settled hanchor).symm) _
  refine ⟨hjoined, ?_⟩
  have hfile : (r.relativize s).importedFile =
      (s.directory.join (Path.read (r.relativize s).path)).normalize := rfl
  rw [hfile, Path.settled_normalize, hjoined]

/-- A resolver whose root is given by a way that leaves its directory and comes back. -/
def windingResolver : Resolver :=
  { sampleResolver with root := Path.read "a/../../../gen/./x/..", workingDirectory := ["home", "work"] }

/-- The import of a standard type from a directory that is given by such a way too. -/
def windingImport : Statement :=
  ⟨Path.read "/tmp/../../lib//b", opening, "google-protobuf/google/protobuf/../any_pb.js", closing⟩

theorem settled_relativize_winding :
    windingResolver.HasPlainRoot ∧ windingImport.isWellKnown = true ∧
      windingImport.path = standardModule ++ "google/protobuf/../any_pb.js" ∧
      windingImport.directory.anchor ≠ .doubleRoot ∧ windingResolver.root.anchor ≠ .doubleRoot ∧
      (windingResolver.relativize windingImport).path = "../../gen/google/protobuf/../any_pb.js" ∧
      (windingImport.directory.join
          (Path.read "../../gen/google/protobuf/../any_pb.js")).settled ["home", "work"] =
        (windingResolver.root.join (Path.read "google/protobuf/../any_pb.js")).settled
          ["home", "work"] := by
  have hroot : windingResolver.HasPlainRoot := by
    refine hasPlainRoot_of_read rfl (by decide) ?_
    rintro name hname
    have hplain : ∀ name ∈ ["home", "work"],
        '/' ∉ name.toList ∧ Path.isPart name = true ∧ '\\' ∉ name.toList := by
      decide +kernel
    obtain ⟨hslash, hcounts, hbackslash⟩ := hplain name hname
    exact ⟨⟨hslash, hcounts⟩, hbackslash⟩
  have hwell : windingImport.isWellKnown = true := by decide +kernel
  have hpath : windingImport.path = standardModule ++ "google/protobuf/../any_pb.js" := by
    decide +kernel
  have hdirectory : windingImport.directory.anchor ≠ .doubleRoot := by decide +kernel
  have hanchor : windingResolver.root.anchor ≠ .doubleRoot := by decide +kernel
  have hway : (windingResolver.relativize windingImport).path =
      "../../gen/google/protobuf/../any_pb.js" := by
    decide +kernel
  have hjoined := (settled_relativize hroot hpath hwell hdirectory hanchor).1
  rw [hway] at hjoined
  exact ⟨hroot, hwell, hpath, hdirectory, hanchor, hway, hjoined⟩

/-! ## Roots inside the importing directory -/

/-- Whether the generation root lies inside a directory, at any depth. -/
def IsBelow (r : Resolver) (directory : Path) : Prop :=
  ∃ name names, r.root.absolute r.workingDirectory =
    directory.absolute r.workingDirectory ++ name :: names

theorem way_eq (r : Resolver) (directory : Path) :
    r.way directory = Path.wayBetween (directory.absolute r.workingDirectory)
      (r.root.absolute r.workingDirectory) := rfl

/-- The first name of the way to the generation root is a step up, unless the root lies inside. -/
theorem isBelow_iff_way (r : Resolver) (directory : Path) :
    r.IsBelow directory ↔ ∃ name names, r.way directory = name :: names ∧ name ≠ ".." := by
  have hnames := Path.not_mem_absolute r.workingDirectory r.root
  rw [way_eq, IsBelow]
  generalize directory.absolute r.workingDirectory = start
  generalize r.root.absolute r.workingDirectory = target at hnames
  constructor
  · rintro ⟨name, names, rfl⟩
    refine ⟨name, names, Path.wayBetween_append start (name :: names), ?_⟩
    rintro rfl
    exact hnames (List.mem_append_right _ (List.mem_cons_self ..))
  · rintro ⟨name, names, hway, hname⟩
    obtain ⟨common, hstart, htarget⟩ := Path.exists_common start target
    rw [Path.wayBetween_eq] at hway
    cases hup : (Path.divergence start target).1 with
    | nil =>
      rw [hup] at hway hstart
      rw [List.append_nil] at hstart
      exact ⟨name, names, by rw [hstart, ← hway]; exact htarget⟩
    | cons top up =>
      rw [hup, List.length_cons, List.replicate_succ] at hway
      exact absurd (List.cons_eq_cons.1 hway).1.symm hname

/-- The way to the generation root is a relative path, unless the root lies inside. -/
theorem isRelative_relativize_iff (hroot : r.HasPlainRoot) (hwell : s.isWellKnown = true) :
    (r.relativize s).isRelative = true ↔ ¬r.IsBelow s.directory := by
  obtain ⟨rest, hpath⟩ := isWellKnown_iff.1 hwell
  have hrelative := relativize_path (r := r) hpath
  rw [standardReplacement_eq hroot] at hrelative
  rw [isBelow_iff_way]
  cases hway : r.way s.directory with
  | nil =>
    rw [if_pos hway] at hrelative
    have hstart : startsWith "./" (r.relativize s).path = true := startsWith_iff.2 ⟨_, hrelative⟩
    simp [Statement.isRelative, hstart]
  | cons name names =>
    obtain ⟨more, hmore⟩ := toList_intercalate_cons name names (standardDirectory.toList ++ rest)
    rw [if_neg (by simp [hway]), hway, hmore] at hrelative
    have hname := (isName_of_mem_way hroot (hway ▸ List.mem_cons_self ..)).1
    constructor
    · rintro h ⟨other, others, hsame, hother⟩
      obtain ⟨rfl, -⟩ := List.cons_eq_cons.1 hsame
      simp only [Statement.isRelative, Bool.or_eq_true, startsWith_iff] at h
      rcases h with ⟨behind, hbehind⟩ | ⟨behind, hbehind⟩
      · have hdot : name.toList = ".".toList := by
          apply Path.eq_of_append_slash hname.noSlash (by decide)
          rw [← hrelative, hbehind]
          rfl
        have hcounts := hname.counts
        rw [String.toList_inj.1 hdot] at hcounts
        exact absurd hcounts (by decide)
      · have hdots : name.toList = "..".toList := by
          apply Path.eq_of_append_slash hname.noSlash (by decide)
          rw [← hrelative, hbehind]
          rfl
        exact hother (String.toList_inj.1 hdots)
    · intro hnot
      have hup : name = ".." := by
        by_contra hne
        exact hnot ⟨name, names, rfl, hne⟩
      have hstart : startsWith "../" (r.relativize s).path = true := by
        rw [startsWith_iff]
        exact ⟨more, by rw [hrelative, hup]; rfl⟩
      simp [Statement.isRelative, hstart]

/-! ## What the import of a standard type ends as -/

/-- A module has a path for what it provides. -/
theorem exists_fileIn?_of_provides {m : Module} {reference : String}
    (h : m.provides reference = true) : ∃ path, m.fileIn? reference = some path := by
  obtain ⟨pattern, hpattern⟩ := Option.isSome_iff_exists.1 h
  have hfound : m.patterns.find? (·.accepts (Reference.split reference).directory) = some pattern :=
    hpattern
  have haccepts := List.find?_some hfound
  obtain ⟨n, hn⟩ := Option.isSome_iff_exists.1 haccepts
  simp [Module.fileIn?, hpattern, Pattern.inside?, hn]

/-- A statement as it is imported from the first module that provides a reference. -/
def IsImportOf (r : Resolver) (reference : String) (s u : Statement) : Prop :=
  ∃ m path, firstProviding r.modules reference = some m ∧ m.fileIn? reference = some path ∧
    u = s.replacePath path

/-- Unless the generation root lies inside the importing directory, the import of a standard type
ends as a relative path or as an import from the first module that provides the path made relative,
and as the latter if the file is missing, also among the main sources. To a root that lies inside the
directory it is made a path that begins with the name of a directory, and no module is asked. -/
theorem resolve_isWellKnown (hroot : r.HasPlainRoot) (hwell : s.isWellKnown = true) :
    (¬r.IsBelow s.directory →
      ((r.resolve s).isRelative = true ∨
        r.IsImportOf (r.localize s).path s (r.resolve s)) ∧
      (r.finds (r.localize s) = false → r.finds (r.localize s).inMainSources = false →
        (∃ m ∈ r.modules, m.provides (r.localize s).path = true) →
          r.IsImportOf (r.localize s).path s (r.resolve s))) ∧
      (r.IsBelow s.directory →
        (r.resolve s).isRelative = false ∧ r.resolve s = r.localize s) := by
  have hlocal := localize_of_isWellKnown (r := r) hwell
  have hiff := isRelative_relativize_iff hroot hwell
  rw [← hlocal] at hiff
  constructor
  · intro hbelow
    have hrelative := hiff.2 hbelow
    constructor
    · rcases r.resolve_cases s with ⟨-, h⟩ | ⟨-, -, -, h⟩ | ⟨-, path, hfile, h⟩
      · rw [h]
        exact .inl hrelative
      · rw [h]
        exact .inl (isRelative_inMainSources hrelative)
      · obtain ⟨-, m, hm, hpath⟩ := of_moduleFile? hfile
        exact .inr ⟨m, path, hm, hpath, h⟩
    · intro hmissing hmain ⟨m, hm, hprovides⟩
      obtain ⟨first, hfirst⟩ : ∃ first, firstProviding r.modules (r.localize s).path = some first :=
        Option.isSome_iff_exists.1 (List.find?_isSome.2 ⟨m, hm, hprovides⟩)
      have hfound : r.modules.find? (·.provides (r.localize s).path) = some first := hfirst
      have hfirstProvides := List.find?_some hfound
      obtain ⟨path, hpath⟩ := exists_fileIn?_of_provides hfirstProvides
      have hfile : r.moduleFile? s = some path := by
        have hunresolved := isUnresolved_iff.2 ⟨hrelative, hmissing⟩
        simp [moduleFile?, inMain?, hunresolved, hmain, hfirst, hpath]
      rcases r.resolve_cases s with ⟨hnone, -⟩ | ⟨hnone, -⟩ | ⟨-, path', hsome, h⟩
      · rw [hfile] at hnone
        cases hnone
      · rw [hfile] at hnone
        cases hnone
      · rw [hfile] at hsome
        cases hsome
        exact ⟨first, path, hfirst, hpath, h⟩
  · intro hbelow
    have hrelative : (r.localize s).isRelative = false := by
      rw [Bool.eq_false_iff]
      exact fun h => hiff.1 h hbelow
    have hresolve : r.resolve s = r.localize s := by
      simp [resolve, isUnresolved, hrelative]
    rw [hresolve]
    exact ⟨hrelative, rfl⟩

/-- A resolver whose root lies inside the directory it is asked about; a module has the files that
are missing there. -/
def insideResolver : Resolver :=
  { root := Path.read "gen"
    modules := [⟨"web", [⟨["out", "gen"], true⟩]⟩]
    isPresent := fun _ => false
    lookFault? := fun _ => none
    workingDirectory := ["work"] }

/-- The import of a standard type from this directory. -/
def timestampImport : Statement :=
  ⟨Path.read ".", opening, "google-protobuf/google/protobuf/timestamp_pb.js", closing⟩

theorem resolve_isWellKnown_inside :
    insideResolver.HasPlainRoot ∧ timestampImport.isWellKnown = true ∧
      insideResolver.IsBelow timestampImport.directory ∧
      (insideResolver.resolve timestampImport).isRelative = false ∧
      (insideResolver.resolve timestampImport).path = "gen/google/protobuf/timestamp_pb.js" ∧
      ((firstProviding insideResolver.modules "gen/google/protobuf/timestamp_pb.js").bind
        (·.fileIn? "gen/google/protobuf/timestamp_pb.js")) =
          some "web/out/gen/google/protobuf/timestamp_pb.js" := by
  have hroot : insideResolver.HasPlainRoot := by
    have hplain : ∀ name ∈ ["work", "gen"],
        '/' ∉ name.toList ∧ Path.isPart name = true ∧ '\\' ∉ name.toList := by
      decide +kernel
    have hnames : insideResolver.root.absolute insideResolver.workingDirectory = ["work", "gen"] := by
      decide +kernel
    intro name hname
    rw [hnames] at hname
    obtain ⟨hslash, hcounts, hbackslash⟩ := hplain name hname
    exact ⟨⟨hslash, hcounts⟩, hbackslash⟩
  have hwell : timestampImport.isWellKnown = true := by decide +kernel
  have hbelow : insideResolver.IsBelow timestampImport.directory := ⟨"gen", [], by decide +kernel⟩
  obtain ⟨hrelative, hresolve⟩ := (resolve_isWellKnown hroot hwell).2 hbelow
  refine ⟨hroot, hwell, hbelow, hrelative, ?_, by decide +kernel⟩
  rw [hresolve]
  decide +kernel

end Resolver

end Protogen.Import
