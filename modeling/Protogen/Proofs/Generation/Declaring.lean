import Mathlib.Data.List.ReduceOption
import Protogen.Proofs.Generation.Rendered
import Protogen.Proofs.Output.Declaration
import Protogen.Proofs.Output.Index

/-!
# Files that declare types

* `File.DeclaresAny`: a file declares a message or an enum, at any depth.
* `FileSet.indexImports_eq`: the index imports the compiled files of just these files, in their order.
* `Generation.mem_keys_merge_iff`: code is put together for just their compiled files.
-/

set_option autoImplicit false

namespace Protogen

namespace Schema

variable {f : File} {s : FileSet} {files : List (Option File)}

/-- A file that declares a message or an enum, at any depth. -/
def File.DeclaresAny (f : File) : Prop := (∃ t, f.DeclaresMessage t) ∨ ∃ t, f.DeclaresEnum t

/-- A file with a type nested in a message has that message. -/
theorem File.declaresAny_iff :
    f.DeclaresAny ↔ (f.messages.getD []).any Option.isSome = true ∨
      (f.enums.getD []).any Option.isSome = true := by
  have hmessage : ∀ {scope messages t}, Declares f scope messages t → ∃ m, some m ∈ messages := by
    intro scope messages t h
    cases h with
    | here h => exact ⟨_, h⟩
    | nested h _ _ => exact ⟨_, h⟩
  have hany : ∀ {α : Type} (items : List (Option α)),
      items.any Option.isSome = true ↔ ∃ a, some a ∈ items := by
    intro α items
    simp [List.any_eq_true, Option.isSome_iff_exists]
  rw [hany, hany]
  constructor
  · rintro (⟨t, messages, hmessages, ht⟩ |
      ⟨t, ⟨enums, henums, e, he, -⟩ | ⟨messages, hmessages, m, -, hm, -⟩⟩)
    · rw [hmessages]
      exact .inl (hmessage ht)
    · rw [henums]
      exact .inr ⟨e, he⟩
    · rw [hmessages]
      exact .inl (hmessage hm)
  · rintro (⟨m, hm⟩ | ⟨e, he⟩)
    · cases hmessages : f.messages with
      | none => simp [hmessages] at hm
      | some messages =>
        rw [hmessages] at hm
        exact .inl ⟨_, messages, hmessages, .here hm⟩
    · cases henums : f.enums with
      | none => simp [henums] at he
      | some enums =>
        rw [henums] at he
        exact .inr ⟨_, .inl ⟨enums, henums, e, he, rfl⟩⟩

instance (f : File) : Decidable f.DeclaresAny := decidable_of_iff' _ File.declaresAny_iff

/-! ## Imports of the index -/

/-- The import of the compiled file of a file, which has to have a name. -/
def File.jsImport (f : File) : Option String := f.name.map fun name => "./" ++ Naming.jsFileName name

/-- What the index imports for a file of a set: its compiled file, if it declares a type. -/
def IsImportOf (item : Option File) (path : Option String) : Prop :=
  ∃ f, item = some f ∧ if f.DeclaresAny then path.map some = some f.jsImport else path = none

theorem isImportOf_of_eq_ok {item : Option File} {path : Option String}
    (h : (do
      let file ← declared item
      let messages ← file.messageTypes
      let isEmpty ← if messages.isEmpty then (file.enumTypes).map List.isEmpty else pure false
      if isEmpty then pure none else (file.jsFile).map fun js => some ("./" ++ js)) = .ok path) :
    IsImportOf item path := by
  obtain ⟨f, hf, h⟩ := bind_eq_ok.1 h
  obtain ⟨messages, hmessages, h⟩ := bind_eq_ok.1 h
  refine ⟨f, declared_eq_ok_iff.1 hf, ?_⟩
  have hmessage : messages.isEmpty = false ↔ ∃ t, f.DeclaresMessage t := by
    rw [List.isEmpty_eq_false_iff_exists_mem]
    exact exists_congr fun t => File.mem_messageTypes_iff hmessages t
  -- whether the file has no type, and what becomes of it
  obtain ⟨isEmpty, hempty, h⟩ : ∃ isEmpty, (isEmpty = false ↔ f.DeclaresAny) ∧
      (if isEmpty then pure none else (f.jsFile).map fun js => some ("./" ++ js)) = .ok path := by
    dsimp only at h
    split at h
    case isTrue hnone =>
      obtain ⟨isEmpty, hisEmpty, h⟩ := bind_eq_ok.1 h
      obtain ⟨enums, henums, rfl⟩ := map_eq_ok.1 hisEmpty
      refine ⟨_, ?_, h⟩
      have hno : ¬∃ t, f.DeclaresMessage t := by
        rw [← hmessage, hnone]
        simp
      rw [List.isEmpty_eq_false_iff_exists_mem, File.DeclaresAny, or_iff_right hno]
      exact exists_congr fun t => File.mem_enumTypes_iff henums t
    case isFalse hsome =>
      exact ⟨false, iff_of_true rfl (.inl (hmessage.1 (Bool.not_eq_true _ ▸ hsome))), h⟩
  cases isEmpty with
  | true =>
    rw [if_neg (by simpa using hempty)]
    cases h
    rfl
  | false =>
    rw [if_pos (hempty.1 rfl)]
    obtain ⟨js, hjs, rfl⟩ := map_eq_ok.1 h
    obtain ⟨name, hname, rfl⟩ := map_eq_ok.1 hjs
    rw [File.jsImport, declared_eq_ok_iff.1 hname]
    rfl

theorem map_filterMap_of_isImportOf {paths : List (Option String)}
    (h : List.Forall₂ IsImportOf files paths) :
    (paths.filterMap id).map some =
      (files.reduceOption.filter fun f => f.DeclaresAny).map File.jsImport := by
  induction h with
  | nil => rfl
  | cons hfirst _ ih =>
    obtain ⟨f, rfl, hpath⟩ := hfirst
    rw [List.reduceOption_cons_of_some, List.filter_cons]
    split at hpath
    case isTrue hany =>
      obtain ⟨path, rfl, himport⟩ := Option.map_eq_some_iff.1 hpath
      rw [if_pos (decide_eq_true hany), List.filterMap_cons_some (by rfl), List.map_cons,
        List.map_cons, ih, himport]
    case isFalse hany =>
      rw [if_neg (by simpa using hany), List.filterMap_cons_none (by rw [hpath]; rfl), ih]

/-- The index imports the compiled files of the files that declare a type, in their order. -/
theorem FileSet.indexImports_eq {imports : List String} (hfiles : s.files = some files)
    (h : s.indexImports = .ok imports) :
    imports.map some = (files.reduceOption.filter fun f => f.DeclaresAny).map File.jsImport := by
  obtain ⟨list, hlist, h⟩ := bind_eq_ok.1 h
  obtain rfl := Option.some.inj (hfiles.symm.trans (wanted_eq_ok_iff.1 hlist))
  obtain ⟨paths, hpaths, h⟩ := bind_eq_ok.1 h
  cases h
  exact map_filterMap_of_isImportOf ((mapM_eq_ok_iff.1 hpaths).imp fun _ _ => isImportOf_of_eq_ok)

/-! ## Code -/

/-- The functions that return type URLs are rendered of the files that declare a type. -/
theorem File.exists_renderTypeUrls_iff {rendered : Option String}
    (h : f.renderTypeUrls = .ok rendered) : (∃ text, rendered = some text) ↔ f.DeclaresAny := by
  obtain ⟨types, htypes, h⟩ := bind_eq_ok.1 h
  rw [failing_eq_ok] at htypes
  obtain ⟨messages, hmessages, hurls⟩ := bind_eq_ok.1 htypes
  obtain ⟨enums, henums, hurls⟩ := bind_eq_ok.1 hurls
  have hany : types.isEmpty = false ↔ f.DeclaresAny := by
    cases hurls
    rw [List.isEmpty_eq_false_iff, Ne, List.append_eq_nil_iff, List.map_eq_nil_iff,
      List.map_eq_nil_iff, not_and_or, ← Ne, ← Ne, ← List.isEmpty_eq_false_iff,
      ← List.isEmpty_eq_false_iff, List.isEmpty_eq_false_iff_exists_mem,
      List.isEmpty_eq_false_iff_exists_mem]
    exact or_congr (exists_congr fun t => File.mem_messageTypes_iff hmessages t)
      (exists_congr fun t => File.mem_enumTypes_iff henums t)
  rw [← hany]
  cases types with
  | nil =>
    cases h
    simp
  | cons t types =>
    obtain ⟨writer, -, h⟩ := bind_eq_ok.1 h
    obtain ⟨text, -, h⟩ := bind_eq_ok.1 h
    cases h
    simp

end Schema

namespace Generation

open Schema

variable {g : Generation} {s : FileSet} {registry : Registry} {files : List (Option File)}
variable {parsers typeUrls : Rendered} {p : Path}

/-- Code is put together for the compiled files of the files that declare a type. -/
theorem mem_keys_merge_iff (hfiles : s.files = some files)
    (hparsers : g.renderParsers s registry = .ok parsers)
    (htypeUrls : g.renderTypeUrls s = .ok typeUrls) :
    p ∈ (Rendered.merge [parsers, typeUrls]).map Prod.fst ↔
      ∃ f, some f ∈ files ∧ f.DeclaresAny ∧ g.jsPath f = .ok p := by
  have hurls := fun p => mem_keys_renderEach_iff (p := p) hfiles htypeUrls
  simp only [Rendered.mem_keys_merge, List.mem_cons, List.not_mem_nil, or_false, exists_eq_or_imp,
    exists_eq_left]
  constructor
  · rintro (hkey | hkey)
    · obtain ⟨f, text, hf, htext, hpath⟩ := (mem_keys_renderEach_iff hfiles hparsers).1 hkey
      obtain ⟨t, ht, -⟩ := File.exists_parses_of_renderParsers htext
      exact ⟨f, hf, .inl ⟨t, ht⟩, hpath⟩
    · obtain ⟨f, text, hf, htext, hpath⟩ := (hurls p).1 hkey
      exact ⟨f, hf, (File.exists_renderTypeUrls_iff htext).1 ⟨text, rfl⟩, hpath⟩
  · rintro ⟨f, hf, hany, hpath⟩
    obtain ⟨r, hr⟩ := (exists_renderEach_iff hfiles).1 ⟨typeUrls, htypeUrls⟩ (some f) hf
    obtain ⟨_, hfile, hr⟩ := bind_eq_ok.1 hr
    cases hfile
    obtain ⟨rendered, hrendered, -⟩ := bind_eq_ok.1 hr
    obtain ⟨text, rfl⟩ := (File.exists_renderTypeUrls_iff hrendered).2 hany
    exact .inr ((hurls p).2 ⟨f, text, hf, hrendered, hpath⟩)

end Generation

end Protogen
