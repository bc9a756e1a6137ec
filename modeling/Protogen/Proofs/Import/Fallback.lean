import Protogen.Import.Resolver
import Protogen.Proofs.Import.Pattern.Overlap
import Protogen.Proofs.Path

/-!
# Imports from modules

An import that nothing else resolves becomes one from the first module with a pattern that accepts
the directory of the imported file. The module is looked up by a scan, its pattern by a second one,
and the directory inside it by a third; that they agree is why none of them fails.

* `IsFirstMatch` says which module and which of its patterns is used.
* `provides_iff`, `firstProviding_eq_some` and `patternFor?_eq_some` are the scans,
  `Module.fileIn_of_overlap?` is the path that comes of them.
* `suffix_split_intercalate`: the names of a reference are the last ones of that path.
* `fromModules_eq`: none of the scans fails. `fromModules_first` is the result for all modules and
  statements.
-/

set_option autoImplicit false

namespace Protogen.Import

variable {modules : List Module} {m : Module} {p : Pattern} {reference : String} {n : Nat}
  {s : Statement}

/-- All names of a reference. -/
def Reference.names (r : Reference) : List String := r.directory ++ [r.file]

/-- The first of some modules with a pattern that accepts a directory, and the first such pattern
of it. -/
structure IsFirstMatch (modules : List Module) (directory : List String) (m : Module)
    (p : Pattern) : Prop where
  accepts : p.accepts directory = true
  module : ∃ before after, modules = before ++ m :: after ∧
    ∀ other ∈ before, ∀ q ∈ other.patterns, q.accepts directory = false
  pattern : ∃ before after, m.patterns = before ++ p :: after ∧
    ∀ q ∈ before, q.accepts directory = false

/-! ## The scans -/

namespace Module

theorem patternFor?_eq_some (h : m.patternFor? reference = some p) :
    p.accepts (Reference.split reference).directory = true ∧
      ∃ before after, m.patterns = before ++ p :: after ∧
        ∀ q ∈ before, q.accepts (Reference.split reference).directory = false := by
  obtain ⟨haccepts, before, after, hpatterns, hbefore⟩ := List.find?_eq_some_iff_append.1 h
  exact ⟨haccepts, before, after, hpatterns, fun q hq => by simpa using hbefore q hq⟩

theorem provides_iff :
    m.provides reference = true ↔
      ∃ p ∈ m.patterns, p.accepts (Reference.split reference).directory = true := by
  rw [provides, patternFor?, List.find?_isSome]

theorem provides_eq_false_iff :
    m.provides reference = false ↔
      ∀ p ∈ m.patterns, p.accepts (Reference.split reference).directory = false := by
  rw [Bool.eq_false_iff, ne_eq, provides_iff]
  simp

/-- The two ways to ask for the file of a module agree. -/
theorem fileIn_eq (m : Module) (reference : String) :
    m.fileIn reference = match m.fileIn? reference with
      | some file => .ok file
      | none => .error (.notProvided m.name reference) := by
  unfold fileIn fileIn?
  cases hpattern : m.patternFor? reference with
  | none => rfl
  | some p =>
    obtain ⟨n, hn⟩ := Option.isSome_iff_exists.1 (patternFor?_eq_some hpattern).1
    simp only [Option.bind_eq_bind, Option.bind_some, Pattern.inside_of_overlap? hn,
      Pattern.inside?_eq_some_iff.2 ⟨n, hn, rfl⟩]
    rfl

/-- The path inside a module: behind the names of the pattern in front of the overlap stand all names
of the reference. -/
theorem fileIn_of_overlap? (hpattern : m.patternFor? reference = some p)
    (hn : p.overlap? (Reference.split reference).directory = some n) :
    ∃ leading, p.elements = leading ++ (Reference.split reference).directory.take n ∧
      m.fileIn reference = .ok (String.intercalate "/" (m.name :: leading ++
        (Reference.split reference).names)) := by
  obtain ⟨hoverlap, -⟩ := Pattern.overlap?_eq_some_iff.1 hn
  have helements : p.elements = p.elements.take (p.elements.length - n) ++
      (Reference.split reference).directory.take n := by
    rw [hoverlap.agree, List.take_append_drop]
  refine ⟨_, helements, ?_⟩
  have hinner : p.elements ++ (Reference.split reference).directory.drop n =
      p.elements.take (p.elements.length - n) ++ (Reference.split reference).directory := by
    conv_lhs => rw [helements]
    rw [List.append_assoc, List.take_append_drop]
  rw [Reference.names, List.cons_append, ← List.append_assoc, fileIn, hpattern]
  simp only [Pattern.inside_of_overlap? hn, hinner]
  rfl

end Module

theorem firstProviding_eq_some (h : firstProviding modules reference = some m) :
    m.provides reference = true ∧ ∃ before after, modules = before ++ m :: after ∧
      ∀ other ∈ before, ∀ q ∈ other.patterns,
        q.accepts (Reference.split reference).directory = false := by
  obtain ⟨hprovides, before, after, hmodules, hbefore⟩ := List.find?_eq_some_iff_append.1 h
  refine ⟨hprovides, before, after, hmodules, fun other hother => ?_⟩
  exact Module.provides_eq_false_iff.1 (by simpa using hbefore other hother)

/-! ## The names of the new path -/

/-- No name of a reference has a slash. -/
theorem Reference.not_mem_of_mem_names {name : String}
    (h : name ∈ (Reference.split reference).names) : '/' ∉ name.toList := by
  have hpieces : ∀ piece ∈ Text.split '/' reference, '/' ∉ piece.toList :=
    fun _ => Path.not_mem_of_mem_split
  rcases List.mem_append.1 h with hdirectory | hfile
  · exact hpieces name (List.dropLast_subset _ (List.mem_filter.1 hdirectory).1)
  · rw [List.mem_singleton.1 hfile]
    show '/' ∉ ((Text.split '/' reference).getLastD "").toList
    rw [List.getLastD_eq_getLast?]
    cases hlast : (Text.split '/' reference).getLast? with
    | none => exact List.not_mem_nil
    | some piece => exact hpieces piece (List.mem_of_getLast? hlast)

/-- Names without slashes that a path ends with are its last names, whatever stands before them. -/
theorem suffix_split_intercalate {before names : List String} (hbefore : before ≠ [])
    (hnames : names ≠ []) (h : ∀ name ∈ names, '/' ∉ name.toList) :
    names <:+ Text.split '/' (String.intercalate "/" (before ++ names)) := by
  rw [String.intercalate_append_of_ne_nil hbefore hnames, Path.split_slash,
    Path.split_intercalate hnames h]
  exact List.suffix_append _ _

/-! ## The result -/

/-- Where no module provides the path of a statement, the statement stays. -/
theorem fromModules_of_none (h : firstProviding modules s.path = none) :
    s.fromModules modules = .ok s := by
  rw [Statement.fromModules, h]

/-- The module that a scan finds has a path for what it was looked up for. -/
theorem fromModules_of_some (h : firstProviding modules s.path = some m) :
    ∃ p n leading, IsFirstMatch modules (Reference.split s.path).directory m p ∧
      p.overlap? (Reference.split s.path).directory = some n ∧
      p.elements = leading ++ (Reference.split s.path).directory.take n ∧
      s.fromModules modules = .ok (s.replacePath
        (String.intercalate "/" (m.name :: leading ++ (Reference.split s.path).names))) := by
  obtain ⟨hprovides, hmodule⟩ := firstProviding_eq_some h
  obtain ⟨p, hpattern⟩ := Option.isSome_iff_exists.1 hprovides
  obtain ⟨haccepts, hbefore⟩ := Module.patternFor?_eq_some hpattern
  obtain ⟨n, hn⟩ := Option.isSome_iff_exists.1 haccepts
  obtain ⟨leading, hleading, hfile⟩ := Module.fileIn_of_overlap? hpattern hn
  refine ⟨p, n, leading, ⟨haccepts, hmodule, hbefore⟩, hn, hleading, ?_⟩
  simp only [Statement.fromModules, h, hfile]
  rfl

/-- Imports from modules never fail: a resolver takes the same one without asking twice. -/
theorem fromModules_eq (r : Resolver) (s : Statement) :
    s.fromModules r.modules = .ok (r.inModules s) := by
  cases hfirst : firstProviding r.modules s.path with
  | none =>
    rw [fromModules_of_none hfirst, Resolver.inModules, hfirst]
    rfl
  | some m =>
    obtain ⟨p, n, leading, -, -, -, hresult⟩ := fromModules_of_some hfirst
    rw [Statement.fromModules, Resolver.inModules, hfirst, Option.bind_some]
    simp only [Statement.fromModules, hfirst, Module.fileIn_eq] at hresult ⊢
    cases hfile : m.fileIn? s.path with
    | none =>
      rw [hfile] at hresult
      cases hresult
    | some file => rfl

/-- A statement is left as it is if no module has a pattern that accepts the directory of its path.
Otherwise it is made an import from the first module that has one, by the first such pattern: the
new path is the name of the module, the names of the pattern in front of the longest overlap, and
all names of the reference, which are the last names of the new path. -/
theorem fromModules_first (modules : List Module) (s : Statement) :
    ∃ t, s.fromModules modules = .ok t ∧
      (∀ r : Resolver, r.modules = modules → r.inModules s = t) ∧
      ((∀ m ∈ modules, ∀ p ∈ m.patterns,
          p.accepts (Reference.split s.path).directory = false) → t = s) ∧
      ((∃ m ∈ modules, ∃ p ∈ m.patterns,
          p.accepts (Reference.split s.path).directory = true) →
        ∃ m p n leading, IsFirstMatch modules (Reference.split s.path).directory m p ∧
          p.IsOverlap (Reference.split s.path).directory n ∧
          (∀ k, p.IsOverlap (Reference.split s.path).directory k → k ≤ n) ∧
          p.elements = leading ++ (Reference.split s.path).directory.take n ∧
          t = s.replacePath
            (String.intercalate "/" (m.name :: leading ++ (Reference.split s.path).names)) ∧
          (Reference.split s.path).names <:+ Text.split '/' t.path) := by
  have hresolver : ∀ {t}, s.fromModules modules = .ok t →
      ∀ r : Resolver, r.modules = modules → r.inModules s = t := by
    rintro t h r rfl
    exact Except.ok.inj ((fromModules_eq r s).symm.trans h)
  cases hfirst : firstProviding modules s.path with
  | none =>
    have hresult := fromModules_of_none hfirst
    refine ⟨s, hresult, hresolver hresult, fun _ => rfl, ?_⟩
    rintro ⟨m, hm, hmatch⟩
    exact absurd (Module.provides_iff.2 hmatch) (List.find?_eq_none.1 hfirst m hm)
  | some m =>
    obtain ⟨p, n, leading, hmatch, hn, hleading, hresult⟩ := fromModules_of_some hfirst
    obtain ⟨hoverlap, hlongest⟩ := Pattern.overlap?_eq_some_iff.1 hn
    refine ⟨_, hresult, hresolver hresult, fun hnone => ?_, fun _ => ?_⟩
    · have hprovides := (firstProviding_eq_some hfirst).1
      rw [Module.provides_eq_false_iff.2 (hnone m (List.mem_of_find?_eq_some hfirst))] at hprovides
      cases hprovides
    · exact ⟨m, p, n, leading, hmatch, hoverlap, hlongest, hleading, rfl,
        suffix_split_intercalate (List.cons_ne_nil _ _) (List.append_ne_nil_of_right_ne_nil _ (by simp))
          fun _ => Reference.not_mem_of_mem_names⟩

/-! ### Modules and patterns that overlap -/

/-- Modules of which several have a pattern for the directory `users/web`. -/
def overlappingModules : List Module :=
  [⟨"none", []⟩, ⟨"tasks", [⟨["users"], false⟩, ⟨["acme", "users"], true⟩, ⟨["users", "web"], true⟩]⟩,
    ⟨"users", [⟨["users", "web"], false⟩]⟩]

/-- A statement with a path to this directory. -/
def windingStatement : Statement := ⟨⟨.here, []⟩, opening, "../users/./web//form.js", closing⟩

/-- The names of the reference are the last ones of the path that the second module gives it by its
second pattern; without modules the path stays. -/
theorem fromModules_first_overlapping :
    windingStatement.fromModules overlappingModules =
        .ok (windingStatement.replacePath "tasks/acme/users/web/form.js") ∧
      (∃ m p, IsFirstMatch overlappingModules ["users", "web"] m p) ∧
      ["users", "web", "form.js"] <:+ Text.split '/' "tasks/acme/users/web/form.js" ∧
      windingStatement.fromModules [] = .ok windingStatement := by
  have hdirectory : (Reference.split windingStatement.path).directory = ["users", "web"] := by
    decide +kernel
  have hnames : (Reference.split windingStatement.path).names = ["users", "web", "form.js"] := by
    decide +kernel
  have htasks : windingStatement.fromModules overlappingModules =
      .ok (windingStatement.replacePath "tasks/acme/users/web/form.js") := by
    decide +kernel
  obtain ⟨t, hresult, -, -, hfirst⟩ := fromModules_first overlappingModules windingStatement
  obtain ⟨u, hnone, -, hsame, -⟩ := fromModules_first [] windingStatement
  rw [hdirectory, hnames] at hfirst
  obtain ⟨m, p, n, leading, hmatch, -, -, -, -, hsuffix⟩ := hfirst
    ⟨_, List.mem_cons_of_mem _ (List.mem_cons_self ..), _,
      List.mem_cons_of_mem _ (List.mem_cons_self ..), by decide⟩
  obtain rfl := Except.ok.inj (htasks.symm.trans hresult)
  obtain rfl := hsame nofun
  exact ⟨htasks, ⟨m, p, hmatch⟩, hsuffix, hnone⟩

end Protogen.Import
