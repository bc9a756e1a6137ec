import Protogen.Proofs.Import.Statement
import Protogen.Proofs.Path

/-!
# Strategies of the resolution of an import

Every strategy puts another path in the place of the imported one. A resolution depends on the
statement only through its localized form, so that a statement that is its own localized form and
the result of a resolution resolves to itself.

* `moduleFile?` is the path that a module gives an import; `resolve_cases` are the results of a
  resolution.
* `localize_localize` and `checked_localize_ne` tell when the import of a standard type is made
  relative once and for all: unless the way to the generation root begins like it.
* `quotable_localize` and `quotable_inMainSources` keep paths that can stand in an import.
-/

set_option autoImplicit false

namespace Protogen.Import

open Text

/-- The directory of the standard types in their package. -/
def standardDirectory : String := "google/protobuf/"

theorem toList_wellKnownStart :
    wellKnownStart.toList = standardModule.toList ++ standardDirectory.toList := by
  decide +kernel

variable {r : Resolver} {s t : Statement}

theorem isWellKnown_iff :
    s.isWellKnown = true ↔
      ∃ rest, s.path.toList = standardModule.toList ++ (standardDirectory.toList ++ rest) := by
  simp only [Statement.isWellKnown, startsWith_iff, toList_wellKnownStart, List.append_assoc]

/-- A path that begins with a point is not that of a standard type from its package. -/
theorem isWellKnown_of_isRelative (h : s.isRelative = true) : s.isWellKnown = false := by
  rw [Bool.eq_false_iff]
  intro hwell
  obtain ⟨rest, hwell⟩ := isWellKnown_iff.1 hwell
  simp only [Statement.isRelative, Bool.or_eq_true, startsWith_iff, hwell] at h
  rcases h with ⟨more, h⟩ | ⟨more, h⟩ <;> cases h

/-! ## The way to the generation root -/

namespace Resolver

/-- Whether the generation root, seen from the root of all paths, lies in directories without
quotes and boundaries of lines. -/
def HasCleanRoot (r : Resolver) : Prop :=
  ∀ name ∈ r.root.absolute r.workingDirectory, isClean name.toList = true

theorem divergence_subset (start target : List String) :
    (Path.divergence start target).2 ⊆ target := by
  obtain ⟨common, -, htarget⟩ := Path.exists_common start target
  intro name hname
  rw [htarget]
  exact List.mem_append_right _ hname

/-- A property of the slash and of the characters of names is one of the names between slashes. -/
theorem all_intercalate {p : Char → Bool} (hslash : p '/' = true) {names : List String}
    (h : ∀ name ∈ names, name.toList.all p = true) :
    (String.intercalate "/" names).toList.all p = true := by
  induction names with
  | nil => rfl
  | cons name names ih =>
    have hname := h name (List.mem_cons_self ..)
    have hrest := ih fun other hother => h other (List.mem_cons_of_mem _ hother)
    cases names with
    | nil => rwa [String.intercalate_singleton]
    | cons other names =>
      rw [String.intercalate_cons_cons, String.toList_append, String.toList_append, List.all_append,
        List.all_append, hname, hrest]
      simp [hslash]

theorem isClean_intercalate {names : List String} (h : ∀ name ∈ names, isClean name.toList = true) :
    isClean (String.intercalate "/" names).toList = true :=
  all_intercalate (by decide) h

theorem isClean_pathText {p : Path} (h : ∀ name ∈ p.parts, isClean name.toList = true) :
    isClean p.text.toList = true := by
  unfold Path.text
  split
  · decide
  · have hanchor : isClean p.anchor.text.toList = true := by cases p.anchor <;> decide
    rw [String.toList_append, isClean_append]
    exact ⟨hanchor, isClean_intercalate h⟩

theorem isClean_standardReplacement (h : r.HasCleanRoot) (directory : Path) :
    isClean (r.standardReplacement directory).toList = true := by
  simp only [standardReplacement]
  split
  · decide
  · have hnames : ∀ name ∈ (Path.relative r.workingDirectory directory r.root).parts,
        isClean name.toList = true := by
      intro name hname
      rcases List.mem_append.1 hname with hup | hdown
      · obtain rfl := List.eq_of_mem_replicate hup
        decide
      · exact h name (divergence_subset _ _ hdown)
    have htext := isClean_pathText hnames
    rw [String.toList_append, String.toList_ofList, isClean_append]
    refine ⟨?_, by decide⟩
    simp only [isClean, List.all_map, List.all_eq_true] at htext ⊢
    intro c hc
    have hclean := htext c hc
    by_cases hslash : c = '\\'
    · subst hslash
      decide
    · simpa [hslash] using hclean

/-- The way to the generation root closes with a slash. -/
theorem getLast?_standardReplacement (directory : Path) :
    (r.standardReplacement directory).toList.getLast? = some '/' := by
  simp only [standardReplacement]
  split
  · decide
  · simp

/-! ## Standard types -/

theorem relativize_path {rest : List Char} (h : s.path.toList = standardModule.toList ++ rest) :
    (r.relativize s).path.toList = (r.standardReplacement s.directory).toList ++ rest := by
  have hcut : cut? standardModule.toList (standardModule.toList ++ rest) = some ([], rest) :=
    cut?_of_dropStart? (dropStart?_append _ _)
  simp [relativize, Statement.replacePath, replaceFirst, h, hcut]

/-- A way that closes with a slash, with the directory of the standard types behind it, begins like
the import of a standard type only if it does so itself or is the package. -/
theorem eq_standardModule {way rest more : List Char} (hslash : way.getLast? = some '/')
    (hstart : ∀ more, way ≠ wellKnownStart.toList ++ more)
    (h : way ++ (standardDirectory.toList ++ rest) = wellKnownStart.toList ++ more) :
    way = standardModule.toList := by
  -- the way is a part of the beginning that closes with a slash
  have hbounds : ∀ n < wellKnownStart.toList.length,
      (wellKnownStart.toList.take n).getLast? = some '/' →
        n = standardModule.toList.length ∨ n = "google-protobuf/google/".toList.length := by
    decide +kernel
  rcases List.append_eq_append_iff.1 h with ⟨middle, hway, hrest⟩ | ⟨middle, hway, hrest⟩
  · have htake : wellKnownStart.toList.take way.length = way := by
      rw [hway, List.take_left]
    have hlength : way.length < wellKnownStart.toList.length := by
      have hne : middle.length ≠ 0 := by
        intro hzero
        rw [List.length_eq_zero_iff.1 hzero, List.append_nil] at hway
        exact hstart [] (by rw [hway, List.append_nil])
      rw [hway, List.length_append]
      omega
    rcases hbounds way.length hlength (by rw [htake]; exact hslash) with hn | hn
    · rw [← htake, hn]
      decide +kernel
    · have hdrop : middle = wellKnownStart.toList.drop way.length := by
        rw [hway, List.drop_left]
      rw [hdrop, hn] at hrest
      cases hrest
  · exact absurd hway (hstart middle)

/-- Whether the way to the generation root from a directory begins like the import of a standard
type from its package. -/
def hasStandardWay (r : Resolver) (directory : Path) : Bool :=
  startsWith wellKnownStart (r.standardReplacement directory)

theorem localize_of_isWellKnown (h : s.isWellKnown = true) : r.localize s = r.relativize s :=
  if_pos h

theorem localize_of_not_isWellKnown (h : s.isWellKnown = false) : r.localize s = s := by
  rw [localize, h]
  rfl

theorem localize_localize (h : r.hasStandardWay s.directory = false) :
    r.localize (r.localize s) = r.localize s := by
  cases hs : s.isWellKnown with
  | false => rw [localize_of_not_isWellKnown hs, localize_of_not_isWellKnown hs]
  | true =>
    obtain ⟨rest, hpath⟩ := isWellKnown_iff.1 hs
    have hrelative := relativize_path (r := r) hpath
    rw [localize_of_isWellKnown hs]
    cases ht : (r.relativize s).isWellKnown with
    | false => exact localize_of_not_isWellKnown ht
    | true =>
      obtain ⟨rest', hpath'⟩ := isWellKnown_iff.1 ht
      have hstart : ∀ more, (r.standardReplacement s.directory).toList ≠
          wellKnownStart.toList ++ more := by
        intro more hmore
        rw [hasStandardWay, Bool.eq_false_iff] at h
        exact h (startsWith_iff.2 ⟨more, hmore⟩)
      have hpackage : (r.standardReplacement s.directory).toList = standardModule.toList := by
        apply eq_standardModule (getLast?_standardReplacement _) hstart
        rw [← hrelative, hpath', toList_wellKnownStart, List.append_assoc]
      -- the package is replaced by itself
      have hpaths : (r.relativize s).path = s.path := by
        rw [← String.toList_inj, hrelative, hpackage, hpath]
      have hsame : r.relativize s = s := by
        show s.replacePath (r.relativize s).path = s
        rw [hpaths]
        rfl
      rw [hsame, localize_of_isWellKnown hs, hsame]

/-- On a way that begins like the import of a standard type, that import grows with every
resolution. -/
theorem localize_of_hasStandardWay (hs : s.isWellKnown = true)
    (h : r.hasStandardWay s.directory = true) :
    (r.localize s).isRelative = false ∧ (r.localize (r.localize s)).isRelative = false ∧
      r.localize (r.localize s) ≠ r.localize s := by
  obtain ⟨rest, hpath⟩ := isWellKnown_iff.1 hs
  obtain ⟨more, hway⟩ := startsWith_iff.1 h
  have hnot : ∀ {u : Statement} {rest : List Char}, u.path.toList = wellKnownStart.toList ++ rest →
      u.isRelative = false := by
    intro u rest hu
    rw [Bool.eq_false_iff]
    intro hrelative
    have hwell := isWellKnown_of_isRelative hrelative
    rw [Statement.isWellKnown, startsWith_iff.2 ⟨rest, hu⟩] at hwell
    cases hwell
  have hpath₁ : (r.localize s).path.toList =
      wellKnownStart.toList ++ (more ++ (standardDirectory.toList ++ rest)) := by
    rw [localize_of_isWellKnown hs, relativize_path hpath, hway, List.append_assoc]
  have hwell : (r.localize s).isWellKnown = true := startsWith_iff.2 ⟨_, hpath₁⟩
  have hdirectory : (r.localize s).directory = s.directory := by
    rw [localize_of_isWellKnown hs]
    rfl
  have hpath₁' := hpath₁
  rw [toList_wellKnownStart, List.append_assoc] at hpath₁'
  have hpath₂ := relativize_path (r := r) hpath₁'
  rw [← localize_of_isWellKnown hwell, hdirectory, hway, List.append_assoc] at hpath₂
  refine ⟨hnot hpath₁, hnot hpath₂, ?_⟩
  intro hsame
  have hlength := congrArg (fun u => u.path.toList.length) hsame
  simp only [hpath₁, hpath₂, List.length_append] at hlength
  have hpositive : 0 < standardDirectory.toList.length := by decide
  omega

/-! ## Main sources -/

theorem cutMarkers_append (path : List Char) :
    (cutMarkers path).1 ++ (cutMarkers path).2 = path := by
  fun_induction cutMarkers path <;> simp_all

theorem isClean_markers (path : List Char) : isClean (cutMarkers path).1 = true := by
  fun_induction cutMarkers path <;> simp_all [isClean, isBreak, isQuietBreak]

theorem inMainSources_path (t : Statement) :
    t.inMainSources.path.toList = (cutMarkers t.path.toList).1 ++
      (mainSources.toList ++ (cutMarkers t.path.toList).2) := by
  simp [Statement.inMainSources, Statement.replacePath, mainPath]

theorem isRelative_inMainSources (h : t.isRelative = true) : t.inMainSources.isRelative = true := by
  simp only [Statement.isRelative, Bool.or_eq_true, startsWith_iff, inMainSources_path] at h ⊢
  rcases h with ⟨rest, h⟩ | ⟨rest, h⟩
  · left
    rw [h]
    exact ⟨_, rfl⟩
  · right
    rw [h]
    exact ⟨_, rfl⟩

/-! ## Results -/

/-- The path that the first module with the file of an import gives it, if the import is relative
and its file is missing, also among the main sources. -/
def moduleFile? (r : Resolver) (s : Statement) : Option String :=
  if r.isUnresolved (r.localize s) && (r.inMain? (r.localize s)).isNone then
    (firstProviding r.modules (r.localize s).path).bind (·.fileIn? (r.localize s).path)
  else none

theorem exists_localize (r : Resolver) (s : Statement) :
    ∃ path, r.localize s = s.replacePath path := by
  unfold localize
  split
  · exact ⟨_, rfl⟩
  · exact ⟨s.path, rfl⟩

/-- What a statement is resolved to: its localized form, that form among the main sources, or the
path that a module gives it. -/
theorem resolve_cases (r : Resolver) (s : Statement) :
    (r.moduleFile? s = none ∧ r.resolve s = r.localize s) ∨
    (r.moduleFile? s = none ∧ r.isUnresolved (r.localize s) = true ∧
      r.finds (r.localize s).inMainSources = true ∧
      r.resolve s = (r.localize s).inMainSources) ∨
    (r.isUnresolved (r.localize s) = true ∧
      ∃ path, r.moduleFile? s = some path ∧ r.resolve s = s.replacePath path) := by
  cases hunresolved : r.isUnresolved (r.localize s) with
  | false =>
    left
    simp [moduleFile?, resolve, hunresolved]
  | true =>
    cases hmain : r.finds (r.localize s).inMainSources with
    | true =>
      right
      left
      simp [moduleFile?, resolve, inMain?, hunresolved, hmain]
    | false =>
      cases hfile : (firstProviding r.modules (r.localize s).path).bind
          (·.fileIn? (r.localize s).path) with
      | none =>
        left
        simp [moduleFile?, resolve, inMain?, inModules, hunresolved, hmain, hfile]
      | some path =>
        right
        right
        obtain ⟨way, hway⟩ := r.exists_localize s
        refine ⟨rfl, path, by simp [moduleFile?, inMain?, hunresolved, hmain, hfile], ?_⟩
        simp only [resolve, inMain?, inModules, hunresolved, hmain, hfile, if_pos, Option.getD_none,
          Bool.false_eq_true, if_false]
        rw [hway]
        rfl

theorem exists_resolve (r : Resolver) (s : Statement) :
    ∃ path, r.resolve s = s.replacePath path := by
  obtain ⟨way, hway⟩ := r.exists_localize s
  rcases r.resolve_cases s with ⟨-, h⟩ | ⟨-, -, -, h⟩ | ⟨-, path, -, h⟩
  · exact ⟨way, by rw [h, hway]⟩
  · exact ⟨mainPath (r.localize s).path, by rw [h, hway]; rfl⟩
  · exact ⟨path, h⟩

/-- A resolution depends on the localized form of the statement only. -/
theorem checked_congr (h : r.localize t = r.localize s) : r.checked t = r.checked s := by
  unfold checked looks resolve
  rw [h]

theorem checked_eq_ok_iff {u : Statement} :
    r.checked s = .ok u ↔ (∀ t ∈ r.looks s, r.faultOf? t = none) ∧ r.resolve s = u := by
  unfold checked guarded
  cases hfault : (r.looks s).findSome? r.faultOf? with
  | none =>
    have hnone := List.findSome?_eq_none_iff.1 hfault
    simp only [Except.ok.injEq, iff_and_self]
    intro _
    exact hnone
  | some fault =>
    constructor
    · intro h
      cases h
    · rintro ⟨hnone, -⟩
      rw [List.findSome?_eq_none_iff.2 hnone] at hfault
      cases hfault

theorem isUnresolved_iff : r.isUnresolved t = true ↔ t.isRelative = true ∧ r.finds t = false := by
  simp [isUnresolved]

/-- A relative import of a file that is found stays as it is. -/
theorem checked_of_finds (hrelative : s.isRelative = true) (hfinds : r.finds s = true)
    (hfault : r.faultOf? s = none) : r.checked s = .ok s := by
  have hlocal := localize_of_not_isWellKnown (r := r) (isWellKnown_of_isRelative hrelative)
  refine checked_eq_ok_iff.2 ⟨?_, ?_⟩
  · simpa [looks, hlocal, hrelative, hfinds] using hfault
  · simp [resolve, hlocal, isUnresolved, hrelative, hfinds]

/-- An import that is found among the main sources stays there. -/
theorem checked_inMainSources (hs : r.checked s = .ok (r.localize s).inMainSources)
    (hunresolved : r.isUnresolved (r.localize s) = true)
    (hfinds : r.finds (r.localize s).inMainSources = true) :
    r.checked (r.localize s).inMainSources = .ok (r.localize s).inMainSources := by
  obtain ⟨hrelative, hmissing⟩ := isUnresolved_iff.1 hunresolved
  have hfault := (checked_eq_ok_iff.1 hs).1 (r.localize s).inMainSources
    (by simp [looks, hrelative, hmissing])
  exact checked_of_finds (isRelative_inMainSources hrelative) hfinds hfault

/-- A missing file that no module provides leaves its import as it is. -/
theorem checked_of_missing (hstandard : s.isWellKnown = false)
    (hbeside : r.finds s = false ∧ r.faultOf? s = none)
    (hmain : r.finds s.inMainSources = false ∧ r.faultOf? s.inMainSources = none)
    (hmodules : firstProviding r.modules s.path = none) : r.checked s = .ok s := by
  have hlocal := localize_of_not_isWellKnown (r := r) hstandard
  refine checked_eq_ok_iff.2 ⟨?_, ?_⟩
  · intro t ht
    simp only [looks, hlocal, hbeside.1, Bool.false_eq_true, if_false] at ht
    split at ht
    · simp only [List.mem_cons, List.not_mem_nil, or_false] at ht
      rcases ht with rfl | rfl
      · exact hbeside.2
      · exact hmain.2
    · cases ht
  · simp [resolve, hlocal, inMain?, hmain.1, inModules, hmodules]

/-! ## Paths -/

theorem quotable_localize (h : r.HasCleanRoot) (hs : IsQuotable s.path.toList) :
    IsQuotable (r.localize s).path.toList := by
  cases hwell : s.isWellKnown with
  | false => rwa [localize_of_not_isWellKnown hwell]
  | true =>
    obtain ⟨rest, hpath⟩ := isWellKnown_iff.1 hwell
    rw [localize_of_isWellKnown hwell, relativize_path hpath]
    rw [hpath] at hs
    exact .of_clean_append (isClean_standardReplacement h _) hs.of_append.2

theorem quotable_inMainSources (h : IsQuotable t.path.toList) :
    IsQuotable t.inMainSources.path.toList := by
  have hrest : IsQuotable (cutMarkers t.path.toList).2 := by
    rw [← cutMarkers_append t.path.toList] at h
    exact h.of_append.2
  rw [inMainSources_path]
  exact .of_clean_append (isClean_markers _) (.of_clean_append (by decide) hrest)

end Resolver

end Protogen.Import
