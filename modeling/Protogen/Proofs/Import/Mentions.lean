import Protogen.Proofs.Import.Replacement

/-!
# Lines with several imports

A line may hold several imports. Each begins at the first beginning behind the one before it, and
ends at the next end. The resolution of a text takes the first import of every line.

* `mentions` lists the imports of a line with the text in front of each, and the text behind the last
  of them; `AreMentions` says that these are the line, and that no import is left out.
* `Resolver.retarget` gives an import the path that a statement with its path is resolved to, which
  `resolve_path` says does not depend on the text around.
* `content_resolveLine` is a resolved line, with its first import resolved, and `firstResolved_eq_iff`
  says when this is all that there is to do; `resolveText_mentions` is the theorem for whole texts.
-/

set_option autoImplicit false

namespace Protogen.Import

open Text

/-! ## The imports of a line -/

/-- An import of a line, with the text in front of it. -/
structure Mention where
  before : List Char
  path : List Char
  deriving DecidableEq

/-- The text up to the end of an import. -/
def Mention.text (m : Mention) : List Char :=
  m.before ++ opening.toList ++ m.path ++ closing.toList

/-- The imports of a line one after another, and the text behind the last of them. -/
def mentions (line : List Char) : List Mention × List Char :=
  match _ : cut? opening.toList line with
  | none => ([], line)
  | some (before, rest) =>
    match _ : cut? closing.toList rest with
    | none => ([], line)
    | some (path, after) =>
      let more := mentions after
      (⟨before, path⟩ :: more.1, more.2)
termination_by line.length
decreasing_by
  rename_i hopen hclose
  rw [eq_of_cut? hopen, eq_of_cut? hclose]
  simp [opening]
  omega

/-- A line put together of its imports and the text behind them. -/
def rejoin (parts : List Mention × List Char) : List Char :=
  parts.1.flatMap Mention.text ++ parts.2

theorem mentions_of_cut? {line before rest path after : List Char}
    (hopen : cut? opening.toList line = some (before, rest))
    (hclose : cut? closing.toList rest = some (path, after)) :
    mentions line = (⟨before, path⟩ :: (mentions after).1, (mentions after).2) := by
  rw [mentions]
  split
  · rename_i hnone
    rw [hopen] at hnone
    cases hnone
  · rename_i before' rest' hsome
    rw [hopen] at hsome
    cases hsome
    split
    · rename_i hnone
      rw [hclose] at hnone
      cases hnone
    · rename_i hsome
      rw [hclose] at hsome
      cases hsome
      rfl

theorem mentions_of_plain {line : List Char} (h : occurs opening.toList line = false) :
    mentions line = ([], line) := by
  rw [mentions]
  split
  · rfl
  · rename_i hsome
    rw [occurs, hsome] at h
    cases h

/-- What the imports of a line are: each of them begins at the first beginning behind the one before
it and ends at the next end, and there is no other one behind the last of them. -/
structure AreMentions (line : List Char) (parts : List Mention × List Char) : Prop where
  joined : rejoin parts = line
  unopened : ∀ m ∈ parts.1, ¬opening.toList <:+: m.before
  unclosed : ∀ m ∈ parts.1, ¬closing.toList <:+: m.path
  exhausted : ∀ before path after,
    parts.2 ≠ before ++ opening.toList ++ path ++ closing.toList ++ after

/-- No import stands in a text if no end does behind the first beginning. -/
theorem ne_import_of_cut? {line before rest : List Char}
    (hopen : cut? opening.toList line = some (before, rest))
    (hclose : cut? closing.toList rest = none) (before' path after : List Char) :
    line ≠ before' ++ opening.toList ++ path ++ closing.toList ++ after := by
  intro hline
  simp only [List.append_assoc] at hline
  rw [← List.append_assoc] at hline
  -- the first beginning is not behind that of the import
  have hlength := length_le_of_cut? hopen hline
  obtain ⟨more, hmore⟩ : before ++ opening.toList <+: before' ++ opening.toList := by
    refine List.prefix_of_prefix_length_le ⟨rest, (eq_of_cut? hopen).symm⟩
      ⟨path ++ (closing.toList ++ after), hline.symm⟩ ?_
    rw [List.length_append, List.length_append]
    omega
  rw [eq_of_cut? hopen, ← hmore, List.append_assoc _ more] at hline
  refine cut?_eq_none_iff.1 hclose ⟨more ++ path, after, ?_⟩
  rw [List.append_cancel_left hline]
  simp only [List.append_assoc]

theorem areMentions_mentions (line : List Char) : AreMentions line (mentions line) := by
  fun_induction mentions line with
  | case1 line hopen =>
    refine ⟨rfl, by simp, by simp, fun before path after hline => ?_⟩
    simp only [List.append_assoc] at hline
    refine cut?_eq_none_iff.1 hopen ⟨before, path ++ (closing.toList ++ after), ?_⟩
    rw [hline, List.append_assoc]
  | case2 line before rest hopen hclose =>
    exact ⟨rfl, by simp, by simp, ne_import_of_cut? hopen hclose⟩
  | case3 line before rest hopen path after hclose more ih =>
    refine ⟨?_, ?_, ?_, ih.exhausted⟩
    · have hafter := ih.joined
      rw [rejoin] at hafter ⊢
      rw [List.flatMap_cons, List.append_assoc, hafter, eq_of_cut? hopen, eq_of_cut? hclose]
      simp [Mention.text]
    · exact List.forall_mem_cons.2 ⟨not_isInfix_of_cut? (by decide) hopen, ih.unopened⟩
    · exact List.forall_mem_cons.2 ⟨not_isInfix_of_cut? (by decide) hclose, ih.unclosed⟩

example : (mentions "f(require('a'), require('b').c);".toList).1.map Mention.path = [['a'], ['b']] := by
  decide +kernel

/-! ## Resolution -/

/-- A statement with other text around its path. -/
def Statement.inLine (s : Statement) (before after : String) : Statement :=
  { s with before := before, after := after }

namespace Resolver

variable {r : Resolver} {directory : Path} {line line' : Line} {s t : Statement}

theorem localize_inLine (r : Resolver) (s : Statement) (before after : String) :
    r.localize (s.inLine before after) = (r.localize s).inLine before after := by
  have hsame : (s.inLine before after).isWellKnown = s.isWellKnown := rfl
  cases hwell : s.isWellKnown with
  | false => rw [localize_of_not_isWellKnown hwell, localize_of_not_isWellKnown (hsame.trans hwell)]
  | true =>
    rw [localize_of_isWellKnown hwell, localize_of_isWellKnown (hsame.trans hwell)]
    rfl

theorem inModules_inLine (r : Resolver) (s : Statement) (before after : String) :
    r.inModules (s.inLine before after) = (r.inModules s).inLine before after := by
  have hsame : (firstProviding r.modules (s.inLine before after).path).bind
      (·.fileIn? (s.inLine before after).path) =
        (firstProviding r.modules s.path).bind (·.fileIn? s.path) := rfl
  unfold inModules
  rw [hsame]
  cases (firstProviding r.modules s.path).bind (·.fileIn? s.path) <;> rfl

/-- The text around a path does not count for its resolution. -/
theorem resolve_inLine (r : Resolver) (s : Statement) (before after : String) :
    r.resolve (s.inLine before after) = (r.resolve s).inLine before after := by
  have hmissing : r.isUnresolved ((r.localize s).inLine before after) =
      r.isUnresolved (r.localize s) := rfl
  have hmain : r.finds ((r.localize s).inLine before after).inMainSources =
      r.finds (r.localize s).inMainSources := rfl
  simp only [resolve, localize_inLine, hmissing, inMain?, hmain, inModules_inLine]
  split
  · split <;> rfl
  · rfl

/-- An import with the path that a statement with its path, in the same directory, is resolved to. -/
def retarget (r : Resolver) (directory : Path) (m : Mention) : Mention :=
  { m with
    path := (r.resolve ⟨directory, opening, String.ofList m.path, closing⟩).path.toList }

/-- A line with the first of its imports resolved. -/
def firstResolved (r : Resolver) (directory : Path) (line : List Char) : List Mention × List Char :=
  ((mentions line).1.modifyHead (r.retarget directory), (mentions line).2)

/-- A line with all of its imports resolved. -/
def everyResolved (r : Resolver) (directory : Path) (line : List Char) : List Mention × List Char :=
  ((mentions line).1.map (r.retarget directory), (mentions line).2)

/-- The two are the same where the imports behind the first one are resolved to themselves. -/
theorem firstResolved_eq_iff (r : Resolver) (directory : Path) (line : List Char) :
    r.firstResolved directory line = r.everyResolved directory line ↔
      ∀ m ∈ (mentions line).1.tail, r.retarget directory m = m := by
  simp only [firstResolved, everyResolved, Prod.mk.injEq, and_true]
  cases (mentions line).1 with
  | nil => simp
  | cons m more =>
    have hsame : more.map (r.retarget directory) = more.map id ↔
        ∀ m ∈ more, r.retarget directory m = m := List.map_inj_left
    rw [List.map_id] at hsame
    rw [List.modifyHead_cons, List.map_cons, List.cons_inj_right, List.tail_cons, ← hsame]
    exact eq_comm

/-- The resolution of a line takes its first import. -/
theorem content_resolveLine (h : r.resolveLine directory line = .ok line') :
    line'.content = rejoin (r.firstResolved directory line.content) := by
  rcases resolveLine_eq_ok_iff.1 h with ⟨hnone, rfl⟩ | ⟨s, u, hfound, hu, rfl⟩
  · rw [firstResolved, mentions_of_plain (occurs_eq_false_of_statementIn hnone)]
    rfl
  · obtain ⟨-, rfl⟩ := checked_eq_ok_iff.1 hu
    obtain ⟨before, rest, path, after, hopen, hclose, rfl⟩ := statementIn_eq_some_iff.1 hfound
    have halone := r.resolve_inLine ⟨directory, opening, String.ofList path, closing⟩
      (String.ofList before ++ opening) (closing ++ String.ofList after)
    have hafter := (areMentions_mentions after).joined
    rw [rejoin] at hafter
    simp only [Statement.inLine] at halone
    rw [halone, firstResolved, mentions_of_cut? hopen hclose]
    simp [Statement.text, rejoin, Mention.text, retarget, hafter]

/-- Each of several lines is resolved so. -/
theorem unlines_resolved {ls resolved : List Line}
    (h : List.Forall₂ (fun l l' => r.resolveLine directory l = .ok l') ls resolved) :
    unlines resolved =
      ls.flatMap fun l => rejoin (r.firstResolved directory l.content) ++ l.ending := by
  induction h with
  | nil => rfl
  | cons hl hrest ih =>
    rw [List.flatMap_cons, unlines_cons, ih, content_resolveLine hl, (sameEdges_resolveLine hl).ending,
      List.append_assoc]

/-- The resolution of a text takes the first import of every line, and no other one. Every import of
a line is resolved if and only if those behind the first are resolved to themselves; where this is so
for all lines, as it is if none has two imports, every import of the text is resolved. -/
theorem resolveText_mentions {text result : String} (h : r.resolveText directory text = .ok result) :
    (∀ l ∈ lines text.toList, AreMentions l.content (mentions l.content)) ∧
      result.toList = (lines text.toList).flatMap
        (fun l => rejoin (r.firstResolved directory l.content) ++ l.ending) ∧
      (∀ l ∈ lines text.toList,
        r.firstResolved directory l.content = r.everyResolved directory l.content ↔
          ∀ m ∈ (mentions l.content).1.tail, r.retarget directory m = m) ∧
      ((∀ l ∈ lines text.toList, ∀ m ∈ (mentions l.content).1.tail, r.retarget directory m = m) →
        result.toList = (lines text.toList).flatMap
          fun l => rejoin (r.everyResolved directory l.content) ++ l.ending) := by
  have hfirst : result.toList = (lines text.toList).flatMap
      fun l => rejoin (r.firstResolved directory l.content) ++ l.ending := by
    obtain ⟨resolved, hall, hresult⟩ := resolveText_eq_ok_iff.1 h
    rw [hresult, unlines_resolved hall]
  refine ⟨fun l _ => areMentions_mentions l.content, hfirst,
    fun l _ => r.firstResolved_eq_iff directory l.content, fun hsettled => ?_⟩
  rw [hfirst]
  refine List.flatMap_congr fun l hl => ?_
  rw [(r.firstResolved_eq_iff directory l.content).2 (hsettled l hl)]

/-- Without files, and with a package of one directory. -/
def bareResolver : Resolver :=
  { root := Path.read "gen"
    modules := [⟨"m", [⟨["d"], false⟩]⟩]
    isPresent := fun _ => false
    lookFault? := fun _ => none
    workingDirectory := [] }

/-- A line with two imports of missing files that the package provides. -/
def pairedImports : String := "f(require('./d/a'), require('./d/b'))\n"

theorem resolveText_pairedImports : bareResolver.resolveText (Path.read ".") pairedImports =
    .ok "f(require('m/d/a'), require('./d/b'))\n" := by
  decide +kernel

/-- The second of them stays, although it is not resolved to itself. -/
theorem resolveText_mentions_paired :
    bareResolver.resolveText (Path.read ".") pairedImports =
        .ok "f(require('m/d/a'), require('./d/b'))\n" ∧
      ∃ l ∈ lines pairedImports.toList,
        bareResolver.firstResolved (Path.read ".") l.content ≠
          bareResolver.everyResolved (Path.read ".") l.content ∧
        rejoin (bareResolver.everyResolved (Path.read ".") l.content) =
          "f(require('m/d/a'), require('m/d/b'))".toList := by
  have h := resolveText_pairedImports
  have hlines : lines pairedImports.toList = [⟨pairedImports.toList.dropLast, ['\n']⟩] := by
    decide +kernel
  have hevery : rejoin (bareResolver.everyResolved (Path.read ".") pairedImports.toList.dropLast) =
      "f(require('m/d/a'), require('m/d/b'))".toList := by
    decide +kernel
  obtain ⟨-, hfirst, -⟩ := resolveText_mentions h
  rw [hlines] at hfirst ⊢
  refine ⟨h, _, List.mem_singleton_self _, fun hsame => ?_, hevery⟩
  rw [List.flatMap_singleton, hsame, hevery] at hfirst
  revert hfirst
  decide +kernel

/-- On a line of its own the second import would have another path. -/
theorem resolveText_leaves_second :
    bareResolver.resolveText (Path.read ".") pairedImports =
        .ok "f(require('m/d/a'), require('./d/b'))\n" ∧
      (bareResolver.resolve ⟨Path.read ".", opening, "./d/b", closing⟩).path = "m/d/b" :=
  ⟨resolveText_pairedImports, by decide +kernel⟩

end Resolver

end Protogen.Import
