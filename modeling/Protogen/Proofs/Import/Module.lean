import Protogen.Proofs.Import.Resolver
import Protogen.Proofs.Text.Occurrence

/-!
# Paths inside packages

A module is a package if its name and its directories can stand in an import and its name begins
neither like a relative path nor like the package of the standard types.

* `quotable_of_mem_split` and `quotable_intercalate` take a path apart and put it together.
* `quotable_fileIn?` and `absolute_fileIn?` tell that the path of a file in a package can stand in
  an import and is not resolved again.
-/

set_option autoImplicit false

namespace Protogen.Import

open Text

/-! ## Parts of paths -/

theorem IsQuotable.of_infix {text part : List Char} (h : IsQuotable text) (hpart : part <:+: text) :
    IsQuotable part := by
  obtain ⟨before, after, rfl⟩ := hpart
  exact h.of_append.1.of_append.2

theorem quotable_of_mem_split {text piece : String} (h : IsQuotable text.toList)
    (hpiece : piece ∈ split '/' text) : IsQuotable piece.toList := by
  obtain ⟨part, hpart, rfl⟩ := List.mem_map.1 hpiece
  rw [String.toList_ofList]
  apply h.of_infix
  have hinfix := infix_intercalate hpart ['/']
  rwa [List.intercalate_splitOn] at hinfix

/-- Names between slashes can stand in an import if each of them can. -/
theorem quotable_intercalate {names : List String}
    (h : ∀ name ∈ names, IsQuotable name.toList) :
    IsQuotable (String.intercalate "/" names).toList := by
  induction names with
  | nil => exact ⟨rfl, .nil⟩
  | cons name names ih =>
    have hname := h name (List.mem_cons_self ..)
    have hrest := ih fun other hother => h other (List.mem_cons_of_mem _ hother)
    cases names with
    | nil => rwa [String.intercalate_singleton]
    | cons other names =>
      have hslash : IsQuotable ("/".toList ++ (String.intercalate "/" (other :: names)).toList) :=
        .of_clean_append (by decide) hrest
      rw [String.intercalate_cons_cons, String.toList_append, String.toList_append,
        List.append_assoc]
      refine ⟨isUnbroken_append.2 ⟨hname.unbroken, hslash.unbroken⟩,
        List.isChain_append.2 ⟨hname.unclosed, hslash.unclosed, ?_⟩⟩
      rintro c - d hd ⟨-, rfl⟩
      cases hd

/-! ## Packages -/

/-- Whether a module is a package. -/
structure Module.IsPackage (m : Module) : Prop where
  name : IsQuotable m.name.toList
  elements : ∀ p ∈ m.patterns, ∀ element ∈ p.elements, IsQuotable element.toList
  notRelative : m.name.toList.head? ≠ some '.'
  notStandard : startsWith "google-protobuf" m.name = false

variable {m : Module} {reference path : String}

/-- The path of a file in a module. -/
theorem of_fileIn? (h : m.fileIn? reference = some path) :
    ∃ pattern ∈ m.patterns, ∃ n, path = String.intercalate "/" (m.name ::
      (pattern.elements ++ (Reference.split reference).directory.drop n ++
        [(Reference.split reference).file])) := by
  unfold Module.fileIn? at h
  obtain ⟨pattern, hpattern, h⟩ := Option.bind_eq_some_iff.1 h
  obtain ⟨inner, hinner, h⟩ := Option.bind_eq_some_iff.1 h
  obtain ⟨n, -, rfl⟩ := Option.map_eq_some_iff.1 hinner
  cases h
  exact ⟨pattern, List.mem_of_find?_eq_some hpattern, n, rfl⟩

/-- A file in a package has a path that can stand in an import, if it was imported by one. -/
theorem quotable_fileIn? (hm : m.IsPackage) (hreference : IsQuotable reference.toList)
    (h : m.fileIn? reference = some path) : IsQuotable path.toList := by
  obtain ⟨pattern, hpattern, n, rfl⟩ := of_fileIn? h
  have hpieces : ∀ piece ∈ split '/' reference, IsQuotable piece.toList :=
    fun _ => quotable_of_mem_split hreference
  apply quotable_intercalate
  intro name hname
  simp only [List.mem_cons, List.mem_append, List.not_mem_nil, or_false] at hname
  rcases hname with rfl | (helement | hdirectory) | rfl
  · exact hm.name
  · exact hm.elements pattern hpattern name helement
  · have hmem := (List.mem_filter.1 (List.mem_of_mem_drop hdirectory)).1
    exact hpieces name (List.dropLast_subset _ hmem)
  · show IsQuotable ((split '/' reference).getLastD "").toList
    rw [List.getLastD_eq_getLast?]
    cases hlast : (split '/' reference).getLast? with
    | none => exact ⟨rfl, .nil⟩
    | some piece => exact hpieces piece (List.mem_of_getLast? hlast)

/-- The path of a file in a package is neither relative nor that of a standard type. -/
theorem absolute_fileIn? (hm : m.IsPackage) (h : m.fileIn? reference = some path) (s : Statement) :
    (s.replacePath path).isRelative = false ∧ (s.replacePath path).isWellKnown = false := by
  obtain ⟨pattern, hpattern, n, hpath⟩ := of_fileIn? h
  obtain ⟨rest, hrest⟩ : ∃ rest, path.toList = m.name.toList ++ '/' :: rest := by
    rw [hpath, String.intercalate_cons_of_ne_nil (by simp)]
    exact ⟨_, by rw [String.toList_append, String.toList_append, List.append_assoc]; rfl⟩
  constructor
  · have hhead : path.toList.head? ≠ some '.' := by
      rw [hrest]
      cases hname : m.name.toList with
      | nil => simp
      | cons c name =>
        have hc := hm.notRelative
        rw [hname] at hc
        exact hc
    rw [Bool.eq_false_iff]
    intro hrelative
    simp only [Statement.isRelative, Statement.replacePath, Bool.or_eq_true, startsWith_iff]
      at hrelative
    rcases hrelative with ⟨more, hmore⟩ | ⟨more, hmore⟩
    · exact hhead (by rw [hmore]; rfl)
    · exact hhead (by rw [hmore]; rfl)
  · rw [Bool.eq_false_iff]
    intro hwell
    obtain ⟨more, hmore⟩ := isWellKnown_iff.1 hwell
    have hmodule : standardModule.toList = "google-protobuf".toList ++ ['/'] := by decide +kernel
    have hsides : m.name.toList ++ '/' :: rest =
        "google-protobuf".toList ++ '/' :: (standardDirectory.toList ++ more) := by
      rw [hmodule, List.append_assoc] at hmore
      exact hrest.symm.trans hmore
    have hnot : ∀ rest', m.name.toList ≠ "google-protobuf".toList ++ rest' := by
      intro rest' hname
      have hstart := hm.notStandard
      rw [startsWith_iff.2 ⟨rest', hname⟩] at hstart
      cases hstart
    -- the name would end inside the package, which has no slash
    rcases List.append_eq_append_iff.1 hsides with ⟨middle, hpackage, hmiddle⟩ | ⟨middle, hname, -⟩
    · cases middle with
      | nil => exact hnot [] (by rw [hpackage]; simp)
      | cons c middle =>
        have hslash : c = '/' := (List.cons_eq_cons.1 hmiddle).1.symm
        have hmem : '/' ∈ "google-protobuf".toList := by
          rw [hpackage, hslash]
          simp
        exact absurd hmem (by decide)
    · exact hnot middle hname

end Protogen.Import
