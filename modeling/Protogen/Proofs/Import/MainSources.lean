import Protogen.Proofs.Import.Runtime

/-!
# Imports from the main sources

* `AreMarkers` are the sequences of `./` and `../`. The scan for them goes from place to place
  (`nextPlace?`) and always ends, behind the longest one that the path begins with (`scanEnds_iff`,
  `AreMarkers.prefix_cutMarkers`).
* `partsOf_markers` reads a path behind them, so that `importedFile_inMainSources` is the file behind
  the way to the main sources, whatever steps follow.
* `looks_up_main_sources` is the look-up as a whole.
-/

set_option autoImplicit false

namespace Protogen.Import

open Text

/-! ## Markers -/

/-- A sequence of the markers `./` and `../`. -/
inductive AreMarkers : List Char → Prop
  | nil : AreMarkers []
  | here {markers : List Char} (h : AreMarkers markers) : AreMarkers ('.' :: '/' :: markers)
  | up {markers : List Char} (h : AreMarkers markers) : AreMarkers ('.' :: '.' :: '/' :: markers)

/-- Where the scan for markers goes on from a place in a path, if a marker is there. -/
def nextPlace? (path : List Char) (n : Nat) : Option Nat :=
  if "../".toList <+: path.drop n then some (n + 3)
  else if "./".toList <+: path.drop n then some (n + 2)
  else none

/-- Whether the scan for markers from a place in a path ends at another one; one that did not end
would end nowhere. -/
inductive ScanEnds (path : List Char) : Nat → Nat → Prop
  | stop {n : Nat} (h : nextPlace? path n = none) : ScanEnds path n n
  | next {n k m : Nat} (h : nextPlace? path n = some k) (hscan : ScanEnds path k m) :
    ScanEnds path n m

variable {path markers : List Char} {n k m : Nat}

theorem areMarkers_cutMarkers (path : List Char) : AreMarkers (cutMarkers path).1 := by
  fun_induction cutMarkers path with
  | case1 rest markers more heq ih => exact .up (by simpa [heq] using ih)
  | case2 rest markers more heq ih => exact .here (by simpa [heq] using ih)
  | case3 path hup hhere => exact .nil

/-- No sequence of markers goes on behind the cut. -/
theorem AreMarkers.prefix_cutMarkers (h : AreMarkers markers) (hbegins : markers <+: path) :
    markers <+: (cutMarkers path).1 := by
  induction h generalizing path with
  | nil => exact List.nil_prefix
  | here h ih =>
    obtain ⟨rest, rfl⟩ := hbegins
    simpa [cutMarkers] using ih (List.prefix_append _ rest)
  | up h ih =>
    obtain ⟨rest, rfl⟩ := hbegins
    simpa [cutMarkers] using ih (List.prefix_append _ rest)

/-! ## The scan -/

theorem cutMarkers_marker {marker : List Char}
    (h : marker = "../".toList ∨ marker = "./".toList) (rest : List Char) :
    (cutMarkers (marker ++ rest)).1 = marker ++ (cutMarkers rest).1 := by
  rcases h with rfl | rfl <;> simp [cutMarkers]

theorem drop_of_prefix {marker : List Char} (h : marker <+: path.drop n) :
    path.drop n = marker ++ path.drop (n + marker.length) := by
  have hrest := List.prefix_iff_eq_append.1 h
  rw [List.drop_drop] at hrest
  exact hrest.symm

/-- The scan goes on behind a marker. -/
theorem exists_marker_of_nextPlace (h : nextPlace? path n = some k) :
    ∃ marker : List Char, (marker = "../".toList ∨ marker = "./".toList) ∧
      k = n + marker.length ∧ path.drop n = marker ++ path.drop k := by
  unfold nextPlace? at h
  split at h
  · rename_i hup
    obtain rfl := Option.some.inj h
    exact ⟨_, .inl rfl, rfl, drop_of_prefix hup⟩
  · split at h
    · rename_i hhere
      obtain rfl := Option.some.inj h
      exact ⟨_, .inr rfl, rfl, drop_of_prefix hhere⟩
    · cases h

/-- One step of the scan passes a marker of the cut. -/
theorem cutMarkers_of_nextPlace (h : nextPlace? path n = some k) :
    n < k ∧ k ≤ path.length ∧
      n + (cutMarkers (path.drop n)).1.length = k + (cutMarkers (path.drop k)).1.length := by
  obtain ⟨marker, hmarker, hk, hdrop⟩ := exists_marker_of_nextPlace h
  have hpositive : 0 < marker.length := by
    rcases hmarker with rfl | rfl <;> decide
  have hlength := congrArg List.length hdrop
  rw [List.length_append, List.length_drop, List.length_drop] at hlength
  refine ⟨by omega, by omega, ?_⟩
  rw [hdrop, cutMarkers_marker hmarker, List.length_append]
  omega

theorem cutMarkers_of_nextPlace_none (h : nextPlace? path n = none) :
    (cutMarkers (path.drop n)).1 = [] := by
  unfold nextPlace? at h
  split at h
  · cases h
  · rename_i hup
    split at h
    · cases h
    · rename_i hhere
      unfold cutMarkers
      split
      · rename_i rest hrest
        exact absurd ⟨rest, hrest.symm⟩ hup
      · rename_i rest hrest
        exact absurd ⟨rest, hrest.symm⟩ hhere
      · rfl

theorem ScanEnds.eq (h : ScanEnds path n m) :
    m = n + (cutMarkers (path.drop n)).1.length := by
  induction h with
  | stop h => simp [cutMarkers_of_nextPlace_none h]
  | next h _ ih =>
    obtain ⟨-, -, hsame⟩ := cutMarkers_of_nextPlace h
    rw [hsame]
    exact ih

/-- The scan ends: each step leaves less of the path. -/
theorem exists_scanEnds (path : List Char) (n : Nat) : ∃ m, ScanEnds path n m := by
  induction hleft : path.length - n using Nat.strong_induction_on generalizing n with
  | _ left ih =>
    cases hnext : nextPlace? path n with
    | none => exact ⟨n, .stop hnext⟩
    | some k =>
      obtain ⟨hlt, hle, -⟩ := cutMarkers_of_nextPlace hnext
      obtain ⟨m, hm⟩ := ih (path.length - k) (by omega) k rfl
      exact ⟨m, .next hnext hm⟩

theorem scanEnds_iff : ScanEnds path n m ↔ m = n + (cutMarkers (path.drop n)).1.length := by
  constructor
  · exact ScanEnds.eq
  · intro hm
    obtain ⟨m', hscan⟩ := exists_scanEnds path n
    rwa [hm, ← hscan.eq]

/-! ## The file among the main sources -/

variable {s u : Statement} {t : FileTree} {root : Path} {modules : List Module}

theorem AreMarkers.read (h : AreMarkers markers) :
    Path.read (String.ofList markers) = ⟨.here, Path.partsOf (String.ofList markers)⟩ := by
  have hanchor : Path.anchorOf (String.ofList markers) = .here := by
    apply Path.anchorOf_eq_here
    cases h <;> simp
  rw [Path.read, hanchor]

theorem AreMarkers.eq_nil_or_slash (h : AreMarkers markers) :
    markers = [] ∨ ∃ front, markers = front ++ ['/'] := by
  induction h with
  | nil => exact .inl rfl
  | here _ ih =>
    right
    rcases ih with rfl | ⟨front, rfl⟩
    · exact ⟨['.'], rfl⟩
    · exact ⟨'.' :: '/' :: front, rfl⟩
  | up _ ih =>
    right
    rcases ih with rfl | ⟨front, rfl⟩
    · exact ⟨['.', '.'], rfl⟩
    · exact ⟨'.' :: '.' :: '/' :: front, rfl⟩

/-- Behind markers a path goes on with the names of the rest. -/
theorem AreMarkers.partsOf_append (h : AreMarkers markers) (rest : String) :
    Path.partsOf (String.ofList markers ++ rest) =
      Path.partsOf (String.ofList markers) ++ Path.partsOf rest := by
  rcases h.eq_nil_or_slash with rfl | ⟨front, rfl⟩
  · rw [String.ofList_nil, String.empty_append]
    rfl
  · have hfront : String.ofList (front ++ ['/']) = String.ofList front ++ "/" := by
      rw [String.ofList_append]
    have hend : Path.partsOf (String.ofList front ++ "/") = Path.partsOf (String.ofList front) := by
      have hslash := Path.partsOf_slash (String.ofList front) ""
      rw [String.append_empty] at hslash
      rw [hslash]
      exact List.append_nil _
    rw [hfront, Path.partsOf_slash, hend]

theorem partsOf_mainSources (rest : String) :
    Path.partsOf (mainSources ++ rest) = Path.partsOf mainSources ++ Path.partsOf rest := by
  have hmain : mainSources = "../main" ++ "/" := by decide
  have hparts : Path.partsOf mainSources = Path.partsOf "../main" := by decide
  rw [hparts, hmain, Path.partsOf_slash]

/-- The file among the main sources: behind the markers the path goes to the main sources, and from
there through the rest. -/
theorem importedFile_inMainSources {rest : List Char} (h : s.isRelative = true)
    (hcut : cutMarkers s.path.toList = (markers, rest)) :
    s.inMainSources.importedFile =
      (((s.directory.join (Path.read (String.ofList markers))).join (Path.read mainSources)).join
        ⟨.here, Path.partsOf (String.ofList rest)⟩).normalize := by
  have hmarkers : AreMarkers markers := by
    have hmarkers := areMarkers_cutMarkers s.path.toList
    rwa [hcut] at hmarkers
  have hpath : s.inMainSources.path =
      String.ofList markers ++ (mainSources ++ String.ofList rest) := by
    simp only [Statement.inMainSources, Statement.replacePath, mainPath, hcut, String.append_assoc]
  have habsolute := isAbsolute_of_isRelative (Resolver.isRelative_inMainSources h)
  have hparts : Path.partsOf s.inMainSources.path = Path.partsOf (String.ofList markers) ++
      (Path.partsOf mainSources ++ Path.partsOf (String.ofList rest)) := by
    rw [hpath, hmarkers.partsOf_append, partsOf_mainSources]
  have hmain : Path.read mainSources = ⟨.here, Path.partsOf mainSources⟩ := by decide
  rw [Statement.importedFile, Path.join, habsolute, Path.parts_read, hparts, hmarkers.read, hmain]
  simp [Path.join, Path.isAbsolute, Statement.inMainSources, Statement.replacePath]

/-! ## The look-up -/

theorem lookFault?_of_isPresent {p : Path} (h : t.isPresent p = true) : t.lookFault? p = none := by
  unfold FileTree.isPresent FileTree.nodeAt? at h
  unfold FileTree.lookFault?
  cases hlocate : t.locate p with
  | ok location => rfl
  | error fault => simp [hlocate] at h

theorem finds_resolverFor (t : FileTree) (root : Path) (modules : List Module) (s : Statement) :
    (resolverFor t root modules).finds s = t.isPresent s.importedFile := by
  simp only [Resolver.finds, resolverFor]

theorem faultOf?_resolverFor (t : FileTree) (root : Path) (modules : List Module) (s : Statement) :
    (resolverFor t root modules).faultOf? s = t.lookFault? s.importedFile := by
  simp only [Resolver.faultOf?, resolverFor]

/-- A statement comes out of the look-up among the main sources if its file is there; a file that
cannot be looked at is not. -/
theorem guarded_inMain?_eq_ok_some :
    (resolverFor t root modules).guarded [s.inMainSources]
        ((resolverFor t root modules).inMain? s) = .ok (some u) ↔
      u = s.inMainSources ∧ t.isPresent s.inMainSources.importedFile = true := by
  unfold Resolver.guarded Resolver.inMain?
  rw [List.findSome?_singleton, finds_resolverFor, faultOf?_resolverFor]
  cases hpresent : t.isPresent s.inMainSources.importedFile with
  | true => simp [lookFault?_of_isPresent hpresent, eq_comm]
  | false => cases t.lookFault? s.inMainSources.importedFile <;> simp

theorem checked_inMainSources_of_isPresent (h : s.isRelative = true)
    (hpresent : t.isPresent s.inMainSources.importedFile = true) :
    (resolverFor t root modules).checked s.inMainSources = .ok s.inMainSources := by
  refine Resolver.checked_of_finds (Resolver.isRelative_inMainSources h) ?_ ?_
  · rw [finds_resolverFor, hpresent]
  · rw [faultOf?_resolverFor, lookFault?_of_isPresent hpresent]

/-- A relative path is looked up among the main sources behind the longest sequence of markers that
it begins with, where the scan for them ends. The path found is relative again. Its file is that
behind the markers, the way to the main sources and the rest; a slash at the beginning of the rest is
one behind a marker and leads to no root. The look-up gives the statement exactly if this file is
there, and it stays as it is when it is resolved again. -/
theorem looks_up_main_sources (t : FileTree) (root : Path) (modules : List Module)
    (h : s.isRelative = true) : ∃ a b : String, s.path = a ++ b ∧
      AreMarkers a.toList ∧
      (∀ longer : List Char, AreMarkers longer → longer <+: s.path.toList →
        longer.length ≤ a.length) ∧
      (∀ n, ScanEnds s.path.toList 0 n ↔ n = a.length) ∧
      s.inMainSources = s.replacePath (a ++ mainSources ++ b) ∧
      s.inMainSources.isRelative = true ∧
      s.inMainSources.importedFile =
        (((s.directory.join (Path.read a)).join (Path.read mainSources)).join
          ⟨.here, Path.partsOf b⟩).normalize ∧
      (∀ u, (resolverFor t root modules).guarded [s.inMainSources]
          ((resolverFor t root modules).inMain? s) = .ok (some u) ↔
        u = s.inMainSources ∧ t.isPresent s.inMainSources.importedFile = true) ∧
      (t.isPresent s.inMainSources.importedFile = true →
        (resolverFor t root modules).checked s.inMainSources = .ok s.inMainSources) := by
  obtain ⟨⟨markers, rest⟩, hcut⟩ : ∃ cut, cutMarkers s.path.toList = cut := ⟨_, rfl⟩
  have happend := Resolver.cutMarkers_append s.path.toList
  have hmarkers := areMarkers_cutMarkers s.path.toList
  rw [hcut] at happend hmarkers
  have hlength : (String.ofList markers).length = markers.length := String.length_ofList
  refine ⟨String.ofList markers, String.ofList rest, ?_, ?_, ?_, ?_, ?_,
    Resolver.isRelative_inMainSources h, importedFile_inMainSources h hcut,
    fun u => guarded_inMain?_eq_ok_some, checked_inMainSources_of_isPresent h⟩
  · rw [← String.ofList_append, happend, String.ofList_toList]
  · rwa [String.toList_ofList]
  · intro longer hlonger hbegins
    have hle := (hlonger.prefix_cutMarkers hbegins).length_le
    rwa [hcut, ← hlength] at hle
  · intro n
    rw [scanEnds_iff, List.drop_zero, hcut, hlength, Nat.zero_add]
  · rw [Statement.inMainSources, mainPath, hcut]

/-- An import beside the main sources, with steps up on both sides of the cut. -/
def siblingImport : Statement :=
  ⟨⟨.here, ["js", "test", "a"]⟩, "require('", "./../x/../b.js", "')"⟩

/-- A tree with its file among the main sources. -/
def siblingTree : FileTree :=
  { nodes := [(["js"], .directory), (["js", "main"], .directory),
      (["js", "main", "b.js"], .file "")] }

/-- The resolver for this tree. -/
def siblingResolver : Resolver := resolverFor siblingTree ⟨.here, ["js"]⟩ []

theorem looks_up_main_sources_sibling :
    siblingImport.isRelative = true ∧
      (∃ a b : String, siblingImport.path = a ++ b ∧ AreMarkers a.toList ∧
        ScanEnds siblingImport.path.toList 0 a.length ∧
        siblingImport.inMainSources.path = a ++ mainSources ++ b) ∧
      siblingImport.inMainSources.path = "./../../main/x/../b.js" ∧
      siblingImport.inMainSources.importedFile = ⟨.here, ["js", "main", "b.js"]⟩ ∧
      siblingResolver.guarded [siblingImport.inMainSources] (siblingResolver.inMain? siblingImport) =
        .ok (some siblingImport.inMainSources) ∧
      siblingResolver.checked siblingImport.inMainSources = .ok siblingImport.inMainSources := by
  have hrelative : siblingImport.isRelative = true := by decide
  obtain ⟨a, b, hpath, hmarkers, -, hscan, hmain, -, -, hlook, hstays⟩ :=
    looks_up_main_sources siblingTree ⟨.here, ["js"]⟩ [] hrelative
  have hfile : siblingImport.inMainSources.importedFile = ⟨.here, ["js", "main", "b.js"]⟩ := by
    decide +kernel
  have hpresent : siblingTree.isPresent siblingImport.inMainSources.importedFile = true := by
    rw [hfile]
    rfl
  exact ⟨hrelative, ⟨a, b, hpath, hmarkers, (hscan _).2 rfl, congrArg Statement.path hmain⟩,
    by decide +kernel, hfile, (hlook _).2 ⟨rfl, hpresent⟩, hstays hpresent⟩

end Protogen.Import
