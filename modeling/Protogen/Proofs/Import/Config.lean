import Mathlib.Data.List.Forall2
import Protogen.Import.Config
import Protogen.Proofs.Failure
import Protogen.Proofs.Import.Pattern.Text
import Protogen.Proofs.Json

/-!
# Configurations of modules

A configuration is a JSON object whose members are lists; the modules are its members in their order.

* `Configures` says which texts are configurations and of what, by `readConfig_eq_ok_iff`; there is
  no name twice (`Configures.nodup`). `IsUnusable` are the texts that are none, by `isUnusable_iff`.
* `combined_eq_ok_iff` says which modules a configuration makes, `exists_combined_iff` that it makes
  none where nothing but slashes is left of a pattern.
-/

set_option autoImplicit false

namespace Protogen.Import

variable {path text : String} {document : Json} {config : Config} {m : Module}
  {modules : List Module}

/-! ## Reading -/

/-- A member that is a list makes an entry; the items count as texts. -/
def IsEntry (member : String × Json) (entry : String × List String) : Prop :=
  ∃ items, member.2 = .arr items ∧ entry = (member.1, items.map Json.display)

/-- What a configuration text, if there is one, configures. -/
inductive Configures : Option String → Config → Prop
  | absent : Configures none []
  | given {text : String} {members : List (String × Json)} {config : Config}
      (parsed : Json.parse text = .ok (.obj members))
      (entries : List.Forall₂ IsEntry members config) : Configures (some text) config

/-- A text that holds no object whose members are lists. -/
def IsUnusable (text : String) : Prop :=
  ¬∃ members, Json.parse text = .ok (.obj members) ∧ ∀ m ∈ members, ∃ items, m.2 = .arr items

theorem configOf_eq_ok_iff :
    configOf path document = .ok config ↔
      ∃ members, document = .obj members ∧ List.Forall₂ IsEntry members config := by
  cases document with
  | obj members =>
    rw [configOf, mapM_eq_ok_iff]
    constructor
    · intro h
      refine ⟨members, rfl, h.imp fun member entry hentry => ?_⟩
      obtain ⟨name, value⟩ := member
      cases value with
      | arr items =>
        cases hentry
        exact ⟨items, rfl, rfl⟩
      | _ => cases hentry
    · rintro ⟨_, heq, h⟩
      obtain rfl := Json.obj.inj heq
      refine h.imp fun member entry hentry => ?_
      obtain ⟨items, hitems, rfl⟩ := hentry
      rw [hitems]
  | _ => simp [configOf]

theorem readConfig_eq_ok_iff :
    readConfig path text = .ok config ↔ Configures (some text) config := by
  rw [readConfig, bind_eq_ok]
  simp only [failing_eq_ok, configOf_eq_ok_iff]
  constructor
  · rintro ⟨document, hparsed, members, rfl, hentries⟩
    exact .given hparsed hentries
  · rintro ⟨⟩
    rename_i members hparsed hentries
    exact ⟨_, hparsed, members, rfl, hentries⟩

theorem exists_entries_iff {members : List (String × Json)} :
    (∃ config, List.Forall₂ IsEntry members config) ↔
      ∀ member ∈ members, ∃ items, member.2 = .arr items := by
  induction members with
  | nil =>
    constructor
    · intro _ member hmember
      cases hmember
    · intro _
      exact ⟨[], .nil⟩
  | cons member members ih =>
    rw [List.forall_mem_cons, ← ih]
    constructor
    · rintro ⟨_, _ | ⟨⟨items, hitems, -⟩, hrest⟩⟩
      exact ⟨⟨items, hitems⟩, _, hrest⟩
    · rintro ⟨⟨items, hitems⟩, config, hrest⟩
      exact ⟨_, .cons ⟨items, hitems, rfl⟩ hrest⟩

/-- A text cannot be used if it configures nothing. -/
theorem isUnusable_iff : IsUnusable text ↔ ¬∃ config, Configures (some text) config := by
  simp only [IsUnusable, ← exists_entries_iff]
  refine not_congr ⟨?_, ?_⟩
  · rintro ⟨members, hparsed, config, hentries⟩
    exact ⟨config, .given hparsed hentries⟩
  · rintro ⟨config, _ | ⟨hparsed, hentries⟩⟩
    exact ⟨_, hparsed, config, hentries⟩

theorem Configures.unique {text : Option String} {config' : Config} (h : Configures text config)
    (h' : Configures text config') : config = config' := by
  cases text with
  | none =>
    cases h
    cases h'
    rfl
  | some content =>
    have hread : readConfig "" content = .ok config := readConfig_eq_ok_iff.2 h
    rw [readConfig_eq_ok_iff.2 h'] at hread
    exact (Except.ok.inj hread).symm

/-- The names of a configuration are those of the object. -/
theorem Configures.nodup {text : Option String} (h : Configures text config) :
    (config.map Prod.fst).Nodup := by
  cases h with
  | absent => exact List.nodup_nil
  | given hparsed hentries =>
    rename_i members
    have hnames : members.map Prod.fst = config.map Prod.fst := by
      rw [← List.forall₂_eq_eq_eq, List.forall₂_map_left_iff, List.forall₂_map_right_iff]
      refine hentries.imp fun member entry hentry => ?_
      obtain ⟨items, -, rfl⟩ := hentry
      rfl
    rw [← hnames]
    exact Json.nodup_names_of_parse hparsed

/-! ## The modules of a configuration -/

/-- A module of a configuration: its patterns are read from the texts. -/
structure IsModule (entry : String × List String) (m : Module) : Prop where
  name : m.name = entry.1
  patterns : List.Forall₂ (fun text p => Pattern.read text = .ok p) entry.2 m.patterns

theorem Module.read_eq_ok_iff {name : String} {texts : List String} :
    Module.read name texts = .ok m ↔ IsModule (name, texts) m := by
  rw [Module.read, bind_eq_ok]
  simp only [mapM_eq_ok_iff]
  constructor
  · rintro ⟨patterns, hpatterns, h⟩
    cases h
    exact ⟨rfl, hpatterns⟩
  · rintro ⟨rfl, hpatterns⟩
    exact ⟨m.patterns, hpatterns, rfl⟩

theorem combined_eq_ok_iff :
    combined config = .ok modules ↔
      ∃ user, List.Forall₂ IsModule config user ∧ modules = user ++ predefined := by
  rw [combined, bind_eq_ok]
  simp only [mapM_eq_ok_iff, Module.read_eq_ok_iff]
  constructor
  · rintro ⟨user, huser, h⟩
    cases h
    exact ⟨user, huser, rfl⟩
  · rintro ⟨user, huser, rfl⟩
    exact ⟨user, huser, rfl⟩

theorem exists_read_iff : (∃ p, Pattern.read text = .ok p) ↔ ∃ c ∈ Pattern.body text, c ≠ '/' := by
  rw [← not_iff_not, ← exists_error_iff]
  simp [Pattern.read_eq_error_iff]

/-- A configuration makes modules unless a pattern holds nothing but slashes. -/
theorem exists_combined_iff :
    (∃ modules, combined config = .ok modules) ↔
      ∀ entry ∈ config, ∀ text ∈ entry.2, ∃ c ∈ Pattern.body text, c ≠ '/' := by
  rw [combined, exists_bind_pure_iff, exists_mapM_iff]
  simp only [Module.read, exists_bind_pure_iff, exists_mapM_iff, exists_read_iff]

end Protogen.Import
