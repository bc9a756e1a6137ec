import Protogen.Proofs.Import.Replacement
import Protogen.Proofs.Import.Rewrite

/-!
# What the resolution of a file ends with

A line that begins an import and does not complete it ends the resolution of a file. So does a line
with an import whose file cannot be looked at, which is so for paths that are too long. Whichever
comes first decides.

* `IsUnterminated` lines begin an import and do not complete it, those with the import of a file
  that cannot be looked at are `Resolver.IsBlocked`, and in `Resolver.IsChanged` ones another path
  takes the place of the imported one.
* `resolveLine_fails_malformed_iff` and `resolveLine_fails_file_iff` are the failures of a line.
* `Resolver.answer` and `Resolver.remainder` are what the resolution of a file with a stored text
  answers and stores; `answer_fails_iff` finds the line that a failure comes from.
* `Verdict` tells the answer from the lines of the stored text (`Resolver.verdict`).
-/

set_option autoImplicit false

namespace Protogen.Import

open Text

variable {r : Resolver} {directory root path : Path} {line : Line} {s : Statement}

/-! ## Lines -/

/-- Whether no end of an import stands behind the first beginning of one in a line. -/
def IsUnterminated (line : List Char) : Prop :=
  ∃ before rest, line = before ++ opening.toList ++ rest ∧ IsFirstCut opening.toList before rest ∧
    ¬closing.toList <:+: rest

/-- Whether a line has an import for which a file is looked up that cannot be looked at. -/
def Resolver.IsBlocked (r : Resolver) (directory : Path) (line : Line) : Prop :=
  ∃ s, Resolver.statementIn directory line = .ok (some s) ∧ ∃ t ∈ r.looks s, r.faultOf? t ≠ none

instance (r : Resolver) (directory : Path) (line : Line) : Decidable (r.IsBlocked directory line) :=
  match h : Resolver.statementIn directory line with
  | .ok (some s) =>
    decidable_of_iff (∃ t ∈ r.looks s, r.faultOf? t ≠ none) (by simp [Resolver.IsBlocked, h])
  | .ok none => isFalse (by simp [Resolver.IsBlocked, h])
  | .error _ => isFalse (by simp [Resolver.IsBlocked, h])

/-- Whether a line has an import that is resolved to another path. -/
def Resolver.IsChanged (r : Resolver) (directory : Path) (line : Line) : Prop :=
  ∃ s, Resolver.statementIn directory line = .ok (some s) ∧ (r.resolve s).path ≠ s.path

theorem cut?_of_isFirstCut {marker before after : List Char} (h : IsFirstCut marker before after) :
    cut? marker (before ++ marker ++ after) = some (before, after) := by
  cases hcut : cut? marker (before ++ marker ++ after) with
  | none => exact absurd ⟨before, after, rfl⟩ (cut?_eq_none_iff.1 hcut)
  | some parts =>
    obtain ⟨before', after'⟩ := parts
    have htext := eq_of_cut? hcut
    have hlength : before.length = before'.length :=
      Nat.le_antisymm (h before' after' htext) (length_le_of_cut? hcut rfl)
    obtain ⟨hbefore, hafter⟩ :=
      List.append_inj htext (by rw [List.length_append, List.length_append, hlength])
    obtain ⟨rfl, -⟩ := List.append_inj hbefore hlength
    rw [hafter]

theorem isUnterminated_iff {content : List Char} :
    IsUnterminated content ↔
      ∃ before rest, cut? opening.toList content = some (before, rest) ∧
        cut? closing.toList rest = none := by
  constructor
  · rintro ⟨before, rest, rfl, hfirst, hrest⟩
    exact ⟨before, rest, cut?_of_isFirstCut hfirst, cut?_eq_none_iff.2 hrest⟩
  · rintro ⟨before, rest, hcut, hrest⟩
    exact ⟨before, rest, eq_of_cut? hcut, isFirstCut_of_cut? hcut, cut?_eq_none_iff.1 hrest⟩

instance (content : List Char) : Decidable (IsUnterminated content) :=
  decidable_of_iff
    ((cut? opening.toList content).any fun parts => (cut? closing.toList parts.2).isNone)
    (by simp [isUnterminated_iff, Option.any_eq_true])

namespace Resolver

/-- A line that begins an import has a statement unless it does not complete it. -/
theorem statementIn_eq_error_iff {cause : MalformedImport} :
    statementIn directory line = .error cause ↔
      IsUnterminated line.content ∧ cause = .unterminated (String.ofList line.content) := by
  unfold statementIn isDeclaredIn occurs Statement.read
  rw [isUnterminated_iff, String.toList_ofList]
  cases hopen : cut? opening.toList line.content with
  | none => simp
  | some parts =>
    obtain ⟨before, rest⟩ := parts
    cases hclose : cut? closing.toList rest with
    | none => simp [hclose, Except.map, eq_comm]
    | some parts => simp [hclose, Except.map]

theorem checked_eq_error_iff {failure : Failure} :
    r.checked s = .error failure ↔
      ∃ fault, (r.looks s).findSome? r.faultOf? = some fault ∧ failure = .file fault := by
  unfold checked guarded
  cases (r.looks s).findSome? r.faultOf? <;> simp [eq_comm]

theorem resolveLine_eq_error_iff {failure : Failure} :
    r.resolveLine directory line = .error failure ↔
      (∃ cause, statementIn directory line = .error cause ∧ failure = .malformedImport cause) ∨
        ∃ s, statementIn directory line = .ok (some s) ∧ r.checked s = .error failure := by
  unfold resolveLine
  -- what the check of a statement does is not looked at
  generalize r.checked = checked
  rw [bind_eq_error]
  cases hfound : statementIn directory line with
  | error cause => simp [failing, Except.mapError, eq_comm]
  | ok found =>
    cases found with
    | none => simp [failing, Except.mapError, pure, Except.pure]
    | some s => simp [failing, Except.mapError, bind_eq_error, pure, Except.pure]

/-- The import of a line is malformed if the line is not terminated. -/
theorem resolveLine_fails_malformed_iff :
    (∃ failure, r.resolveLine directory line = .error failure ∧
      ∃ cause, failure = .malformedImport cause) ↔ IsUnterminated line.content := by
  constructor
  · rintro ⟨failure, h, cause, rfl⟩
    rcases resolveLine_eq_error_iff.1 h with ⟨cause, hfound, -⟩ | ⟨s, -, hchecked⟩
    · exact (statementIn_eq_error_iff.1 hfound).1
    · obtain ⟨fault, -, hfailure⟩ := checked_eq_error_iff.1 hchecked
      cases hfailure
  · intro h
    have hfound : statementIn directory line =
        .error (.unterminated (String.ofList line.content)) :=
      statementIn_eq_error_iff.2 ⟨h, rfl⟩
    exact ⟨_, resolveLine_eq_error_iff.2 (.inl ⟨_, hfound, rfl⟩), _, rfl⟩

/-- A file cannot be looked at if the line is blocked. -/
theorem resolveLine_fails_file_iff :
    (∃ failure, r.resolveLine directory line = .error failure ∧
      ∃ fault, failure = .file fault) ↔ r.IsBlocked directory line := by
  constructor
  · rintro ⟨failure, h, fault, rfl⟩
    rcases resolveLine_eq_error_iff.1 h with ⟨cause, -, hfailure⟩ | ⟨s, hfound, hchecked⟩
    · cases hfailure
    · obtain ⟨fault, hfault, -⟩ := checked_eq_error_iff.1 hchecked
      obtain ⟨t, ht, hfault⟩ := List.exists_of_findSome?_eq_some hfault
      exact ⟨s, hfound, t, ht, by simp [hfault]⟩
  · rintro ⟨s, hfound, t, ht, hfault⟩
    cases hfirst : (r.looks s).findSome? r.faultOf? with
    | none => exact absurd (List.findSome?_eq_none_iff.1 hfirst t ht) hfault
    | some fault =>
      have hchecked := checked_eq_error_iff.2 ⟨fault, hfirst, rfl⟩
      exact ⟨_, resolveLine_eq_error_iff.2 (.inr ⟨s, hfound, hchecked⟩), fault, rfl⟩

/-- There is no other failure. -/
theorem resolveLine_fails {failure : Failure} (h : r.resolveLine directory line = .error failure) :
    (∃ cause, failure = .malformedImport cause) ∨ ∃ fault, failure = .file fault := by
  rcases resolveLine_eq_error_iff.1 h with ⟨cause, -, hfailure⟩ | ⟨s, -, hchecked⟩
  · exact .inl ⟨cause, hfailure⟩
  · obtain ⟨fault, -, hfailure⟩ := checked_eq_error_iff.1 hchecked
    exact .inr ⟨fault, hfailure⟩

theorem exists_resolveLine_iff :
    (∃ line', r.resolveLine directory line = .ok line') ↔
      ¬IsUnterminated line.content ∧ ¬r.IsBlocked directory line := by
  have hmalformed : IsUnterminated line.content ↔
      ∃ failure, r.resolveLine directory line = .error failure ∧
        ∃ cause, failure = .malformedImport cause := resolveLine_fails_malformed_iff.symm
  rw [hmalformed, ← resolveLine_fails_file_iff]
  cases hline : r.resolveLine directory line with
  | ok line' => simp
  | error failure =>
    constructor
    · rintro ⟨line', h⟩
      cases h
    · rintro ⟨hmalformed, hfile⟩
      rcases resolveLine_fails hline with hcause | hfault
      · exact absurd ⟨failure, rfl, hcause⟩ hmalformed
      · exact absurd ⟨failure, rfl, hfault⟩ hfile

/-- A line that can be resolved changes if another path takes the place of the imported one. -/
theorem resolveLine_self_iff_not_isChanged (h : ∃ line', r.resolveLine directory line = .ok line') :
    r.resolveLine directory line = .ok line ↔ ¬r.IsChanged directory line := by
  obtain ⟨line', hline⟩ := h
  rw [resolveLine_self_iff]
  constructor
  · rintro hself ⟨s, hfound, hne⟩
    rcases hself _ hfound with hnone | ⟨t, ht, hchecked⟩
    · cases hnone
    · cases ht
      exact hne (congrArg Statement.path (checked_eq_ok_iff.1 hchecked).2)
  · rintro hsame found rfl
    rcases resolveLine_eq_ok_iff.1 hline with ⟨hnone, -⟩ | ⟨s, u, hfound, hchecked, -⟩
    · exact .inl hnone
    · obtain ⟨-, rfl⟩ := checked_eq_ok_iff.1 hchecked
      obtain ⟨path, hpath⟩ := r.exists_resolve s
      have heq : (r.resolve s).path = s.path := by
        by_contra hne
        exact hsame ⟨s, hfound, hne⟩
      have hself : r.resolve s = s := by
        rw [hpath] at heq ⊢
        rw [show path = s.path from heq]
        rfl
      rw [hself] at hchecked
      exact .inr ⟨s, hfound, hchecked⟩

/-! ## Texts -/

/-- A stored text as it is read. -/
def asRead (content : String) : String := String.ofList (foldEndings content.toList)

/-- What the resolution of a file with a stored text answers. -/
def answer (r : Resolver) (directory : Path) (content : String) : Except Failure Bool :=
  (r.resolveText directory (asRead content)).map fun resolved => decide (resolved ≠ asRead content)

/-- What is stored after the resolution of a file with a stored text. -/
def remainder (r : Resolver) (directory : Path) (content : String) : String :=
  match r.rewrite directory content with
  | .ok new => new
  | .error _ => content

end Resolver

/-- What the answer of the resolution of a file tells about the lines of its stored text. -/
structure Verdict (r : Resolver) (directory : Path) (content : String)
    (answer : Except Failure Bool) : Prop where
  /-- an import is malformed if a line is unterminated and none before it is blocked -/
  malformed : (∃ cause, answer = .error (.malformedImport cause)) ↔
    ∃ before l after, lines content.toList = before ++ l :: after ∧ IsUnterminated l.content ∧
      ∀ k ∈ before, ¬r.IsBlocked directory k
  /-- a file cannot be looked at if a line is blocked and none before it is unterminated -/
  hindered : (∃ fault, answer = .error (.file fault)) ↔
    ∃ before l after, lines content.toList = before ++ l :: after ∧ r.IsBlocked directory l ∧
      ∀ k ∈ before, ¬IsUnterminated k.content
  /-- otherwise all imports are resolved -/
  answered : (∃ changed, answer = .ok changed) ↔
    ∀ l ∈ lines content.toList, ¬IsUnterminated l.content ∧ ¬r.IsBlocked directory l
  /-- the file is changed if one of its imports is resolved to another path -/
  changed : ∀ changed, answer = .ok changed →
    (changed = true ↔ ∃ l ∈ lines content.toList, r.IsChanged directory l)

namespace Resolver

variable {content : String}

theorem remainder_of_error {failure : Failure}
    (h : r.resolveText directory (asRead content) = .error failure) :
    r.remainder directory content = content := by
  have hrewrite : r.rewrite directory content = .error failure := by
    rw [rewrite, ← asRead, h]
    rfl
  rw [remainder, hrewrite]

theorem remainder_of_ok {new : String} (h : r.rewrite directory content = .ok new) :
    r.remainder directory content = new := by
  rw [remainder, h]

theorem resolveText_of_answer {failure : Failure}
    (h : r.answer directory content = .error failure) :
    r.resolveText directory (asRead content) = .error failure :=
  map_eq_error.1 h

theorem lines_asRead (content : String) :
    lines (asRead content).toList = (lines content.toList).map Line.folded := by
  rw [asRead, String.toList_ofList, lines_foldEndings]

/-- The lines that are read are resolved, each with a line feed for its end. -/
theorem answer_eq (r : Resolver) (directory : Path) (content : String) :
    r.answer directory content =
      ((lines content.toList).mapM fun l => r.resolveLine directory l.folded).map fun ls =>
        decide (String.ofList (unlines ls) ≠ asRead content) := by
  unfold answer resolveText
  rw [lines_asRead, List.mapM_map]
  simp only [Function.comp_def]
  cases (lines content.toList).mapM fun l => r.resolveLine directory l.folded <;> rfl

/-- A text fails for the failures of one kind if a line does, and none before it fails for those of
the other kind. -/
theorem answer_fails_iff {kind other : Failure → Prop}
    (hcases : ∀ l failure, r.resolveLine directory l = .error failure →
      kind failure ∨ other failure)
    (hapart : ∀ failure, kind failure → ¬other failure) :
    (∃ failure, r.answer directory content = .error failure ∧ kind failure) ↔
      ∃ before l after, lines content.toList = before ++ l :: after ∧
        (∃ failure, r.resolveLine directory l.folded = .error failure ∧ kind failure) ∧
        ∀ k ∈ before, ¬∃ failure, r.resolveLine directory k.folded = .error failure ∧
          other failure := by
  have honly (k : Line) :
      (∀ failure, r.resolveLine directory k = .error failure → kind failure) ↔
        ¬∃ failure, r.resolveLine directory k = .error failure ∧ other failure := by
    constructor
    · rintro hkind ⟨failure, hfailure, hother⟩
      exact hapart failure (hkind failure hfailure) hother
    · intro hnone failure hfailure
      exact (hcases k failure hfailure).resolve_right fun h => hnone ⟨failure, hfailure, h⟩
  simp only [answer_eq, map_eq_error, mapM_fails_iff, honly]

theorem answer_malformed_iff :
    (∃ cause, r.answer directory content = .error (.malformedImport cause)) ↔
      ∃ before l after, lines content.toList = before ++ l :: after ∧ IsUnterminated l.content ∧
        ∀ k ∈ before, ¬r.IsBlocked directory k := by
  have hfails : (∃ cause, r.answer directory content = .error (.malformedImport cause)) ↔
      ∃ failure, r.answer directory content = .error failure ∧
        ∃ cause, failure = .malformedImport cause := by
    simp
  rw [hfails, answer_fails_iff (fun _ _ => resolveLine_fails) (by simp)]
  simp only [resolveLine_fails_malformed_iff, resolveLine_fails_file_iff]
  rfl

theorem answer_hindered_iff :
    (∃ fault, r.answer directory content = .error (.file fault)) ↔
      ∃ before l after, lines content.toList = before ++ l :: after ∧ r.IsBlocked directory l ∧
        ∀ k ∈ before, ¬IsUnterminated k.content := by
  have hfails : (∃ fault, r.answer directory content = .error (.file fault)) ↔
      ∃ failure, r.answer directory content = .error failure ∧ ∃ fault, failure = .file fault := by
    simp
  rw [hfails, answer_fails_iff (fun _ _ h => (resolveLine_fails h).symm) (by simp)]
  simp only [resolveLine_fails_malformed_iff, resolveLine_fails_file_iff]
  rfl

theorem exists_answer_iff :
    (∃ changed, r.answer directory content = .ok changed) ↔
      ∀ l ∈ lines content.toList, ¬IsUnterminated l.content ∧ ¬r.IsBlocked directory l := by
  have hmapM : (∃ changed, r.answer directory content = .ok changed) ↔
      ∃ ls, (lines content.toList).mapM (fun l => r.resolveLine directory l.folded) = .ok ls := by
    rw [answer_eq]
    cases (lines content.toList).mapM fun l => r.resolveLine directory l.folded <;>
      simp [Except.map, em]
  rw [hmapM, exists_mapM_iff]
  exact forall_congr' fun l => forall_congr' fun _ => exists_resolveLine_iff

theorem answer_changed_iff {changed : Bool} (h : r.answer directory content = .ok changed) :
    changed = true ↔ ∃ l ∈ lines content.toList, r.IsChanged directory l := by
  have hlines := exists_answer_iff.1 ⟨changed, h⟩
  obtain ⟨resolved, hresolved, rfl⟩ := map_eq_ok.1 h
  have hself : resolved = asRead content ↔
      ∀ l ∈ lines content.toList, ¬r.IsChanged directory l := by
    rw [← Except.ok.injEq (ε := Failure), ← hresolved, resolveText_self_iff, lines_asRead,
      List.forall_mem_map]
    refine forall_congr' fun l => forall_congr' fun hl => ?_
    exact resolveLine_self_iff_not_isChanged (exists_resolveLine_iff.2 (hlines l hl))
  rw [decide_eq_true_iff, Ne, hself]
  simp

theorem exists_of_answer_eq_error {failure : Failure}
    (h : r.answer directory content = .error failure) :
    ∃ l ∈ lines content.toList, r.resolveLine directory l.folded = .error failure := by
  rw [answer_eq, map_eq_error] at h
  exact exists_of_mapM_eq_error h

/-- A text has a malformed import or a file that cannot be looked at, if it is not resolved. -/
theorem answer_fails {failure : Failure} (h : r.answer directory content = .error failure) :
    (∃ cause, failure = .malformedImport cause) ∨ ∃ fault, failure = .file fault := by
  obtain ⟨l, -, hline⟩ := exists_of_answer_eq_error h
  exact resolveLine_fails hline

/-- On a file tree, a file cannot be looked at only because its path is too long. -/
theorem answer_fault {t : FileTree} {modules : List Module} {fault : FileFault}
    (h : (resolverFor t root modules).answer directory content = .error (.file fault)) :
    fault = .nameTooLong := by
  obtain ⟨l, -, hline⟩ := exists_of_answer_eq_error h
  rcases resolveLine_eq_error_iff.1 hline with ⟨cause, -, hfailure⟩ | ⟨s, -, hchecked⟩
  · cases hfailure
  · obtain ⟨fault', hfirst, hfailure⟩ := checked_eq_error_iff.1 hchecked
    cases hfailure
    obtain ⟨t', -, hfault⟩ := List.exists_of_findSome?_eq_some hfirst
    have hlook : t.lookFault? t'.importedFile = some fault := hfault
    unfold FileTree.lookFault? at hlook
    split at hlook
    · exact (Option.some.inj hlook).symm
    · cases hlook

theorem verdict (r : Resolver) (directory : Path) (content : String) :
    Verdict r directory content (r.answer directory content) :=
  ⟨answer_malformed_iff, answer_hindered_iff, exists_answer_iff, fun _ => answer_changed_iff⟩

end Resolver

end Protogen.Import
