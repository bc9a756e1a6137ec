import Mathlib.Data.List.Basic
import Protogen.Import.Pattern

/-!
# Overlaps of patterns and directories

A directory ends up inside a pattern where its first names are the last names of the pattern. Names
may repeat, so there can be several such overlaps. The longest one counts, which makes the directory
inside the module the shortest list of names that begins as the pattern and ends as the directory.

* `suffix_append_drop` and `overlap_of_prefix_of_suffix`: what overlaps can be put together so that
  both lists are there, and a list that is too short for two others to stand apart makes them
  overlap.
* `IsOverlap` are the overlaps of a pattern and a directory, `overlap?_eq_some_iff` says that the
  longest of them is found.
* `IsInside` says what the directory inside the module is.
* `accepts_iff_overlap` puts this together for all patterns and directories.
-/

set_option autoImplicit false

namespace Protogen.Import

/-! ## Overlaps of lists -/

section

variable {α : Type} {start ending whole : List α} {n : Nat}

/-- Put together at an overlap, both lists are there. -/
theorem suffix_append_drop (h : ending.take n = start.drop (start.length - n)) :
    ending <:+ start ++ ending.drop n := by
  refine ⟨start.take (start.length - n), ?_⟩
  calc start.take (start.length - n) ++ ending
      = start.take (start.length - n) ++ (ending.take n ++ ending.drop n) := by
        rw [List.take_append_drop]
    _ = start ++ ending.drop n := by
        rw [h, ← List.append_assoc, List.take_append_drop]

/-- Where a list is too short for its beginning and its ending to stand apart, these overlap. -/
theorem overlap_of_prefix_of_suffix (hstart : start <+: whole) (hending : ending <:+ whole)
    (hlength : n + whole.length = start.length + ending.length) :
    ending.take n = start.drop (start.length - n) := by
  obtain ⟨rest, rfl⟩ := hstart
  obtain ⟨before, hwhole⟩ := hending
  rw [List.length_append] at hlength
  rcases List.append_eq_append_iff.1 hwhole with ⟨middle, rfl, rfl⟩ | ⟨middle, rfl, rfl⟩
  · have hn : n = middle.length := by
      simp only [List.length_append] at hlength
      omega
    have hbefore : (before ++ middle).length - n = before.length := by
      rw [List.length_append]
      omega
    rw [hbefore, hn, List.take_left, List.drop_left]
  · -- the ending stands behind the beginning
    have hn : n = 0 := by
      simp only [List.length_append] at hlength
      omega
    rw [hn, List.take_zero, Nat.sub_zero, List.drop_length]

/-- In a list of falling numbers the first one of a kind is the greatest. -/
theorem find?_eq_some_iff_greatest {numbers : List Nat} {kind : Nat → Bool}
    (h : numbers.Pairwise fun first second => second < first) :
    numbers.find? kind = some n ↔
      (n ∈ numbers ∧ kind n = true) ∧ ∀ k ∈ numbers, kind k = true → k ≤ n := by
  induction numbers with
  | nil => simp
  | cons first numbers ih =>
    obtain ⟨hfirst, hnumbers⟩ := List.pairwise_cons.1 h
    cases hkind : kind first with
    | true =>
      rw [List.find?_cons_of_pos hkind, Option.some.injEq, List.forall_mem_cons]
      constructor
      · rintro rfl
        exact ⟨⟨List.mem_cons_self .., hkind⟩, fun _ => Nat.le_refl _, fun k hk _ =>
          Nat.le_of_lt (hfirst k hk)⟩
      · rintro ⟨⟨hmem, -⟩, hle, -⟩
        rcases List.mem_cons.1 hmem with rfl | hmem
        · rfl
        · exact absurd (hle hkind) (Nat.not_le.2 (hfirst n hmem))
    | false =>
      have hother : ∀ k, kind k = true → k ≠ first := by
        rintro k hk rfl
        rw [hkind] at hk
        cases hk
      rw [List.find?_cons_of_neg (by simp [hkind]), ih hnumbers, List.forall_mem_cons,
        List.mem_cons]
      simp only [hkind, Bool.false_eq_true, false_implies, true_and]
      constructor
      · rintro ⟨⟨hmem, hn⟩, hle⟩
        exact ⟨⟨.inr hmem, hn⟩, hle⟩
      · rintro ⟨⟨hmem, hn⟩, hle⟩
        exact ⟨⟨hmem.resolve_left (hother n hn), hn⟩, hle⟩

end

namespace Pattern

variable {p : Pattern} {elements directory inner whole : List String} {n : Nat}

/-! ## The longest overlap -/

/-- The first `n` names of a directory are the last `n` of a pattern. Without subdirectories these
have to be all names of the directory. -/
structure IsOverlap (p : Pattern) (directory : List String) (n : Nat) : Prop where
  positive : 0 < n
  within : n ≤ min directory.length p.elements.length
  agree : directory.take n = p.elements.drop (p.elements.length - n)
  complete : p.nested = false → n = directory.length

theorem isOverlap_iff :
    p.IsOverlap directory n ↔ n ∈ p.candidates directory ∧ p.overlaps directory n = true := by
  have hoverlaps : p.overlaps directory n = true ↔
      0 < n ∧ n ≤ p.elements.length ∧
        directory.take n = p.elements.drop (p.elements.length - n) := by
    simp [overlaps, and_assoc]
  have hcandidates : n ∈ p.candidates directory ↔
      if p.nested then 1 ≤ n ∧ n ≤ directory.length else n = directory.length := by
    unfold candidates
    split
    · rw [List.mem_reverse, List.mem_range'_1]
      omega
    · exact List.mem_singleton
  rw [hoverlaps, hcandidates]
  constructor
  · rintro ⟨hpositive, hwithin, hagree, hcomplete⟩
    refine ⟨?_, hpositive, by omega, hagree⟩
    split
    · omega
    · rename_i hnested
      exact hcomplete (Bool.eq_false_iff.2 hnested)
  · rintro ⟨hcandidate, hpositive, hwithin, hagree⟩
    split at hcandidate
    · rename_i hnested
      refine ⟨hpositive, by omega, hagree, fun hexact => ?_⟩
      rw [hexact] at hnested
      cases hnested
    · exact ⟨hpositive, by omega, hagree, fun _ => hcandidate⟩

/-- Longer candidates come first. -/
theorem pairwise_candidates (p : Pattern) (directory : List String) :
    (p.candidates directory).Pairwise fun first second => second < first := by
  unfold candidates
  split
  · rw [List.pairwise_reverse]
    exact List.pairwise_lt_range' 1
  · exact List.pairwise_singleton _ _

/-- The longest overlap is found. -/
theorem overlap?_eq_some_iff :
    p.overlap? directory = some n ↔
      p.IsOverlap directory n ∧ ∀ k, p.IsOverlap directory k → k ≤ n := by
  rw [overlap?, find?_eq_some_iff_greatest (pairwise_candidates p directory), isOverlap_iff]
  simp only [isOverlap_iff, and_imp]

theorem overlap?_eq_none_iff :
    p.overlap? directory = none ↔ ∀ n, ¬p.IsOverlap directory n := by
  simp only [overlap?, List.find?_eq_none, isOverlap_iff, not_and]

/-- The directories that are accepted are those that the pattern overlaps with. -/
theorem accepts_eq_true_iff :
    p.accepts directory = true ↔ ∃ n, p.IsOverlap directory n := by
  rw [accepts, Option.isSome_iff_ne_none, ne_eq, overlap?_eq_none_iff, not_forall_not]

theorem inside?_eq_some_iff :
    p.inside? directory = some inner ↔
      ∃ n, p.overlap? directory = some n ∧ inner = p.elements ++ directory.drop n := by
  rw [inside?, Option.map_eq_some_iff]
  simp only [eq_comm]

theorem inside_of_overlap? (h : p.overlap? directory = some n) :
    p.inside directory = .ok (p.elements ++ directory.drop n) := by
  rw [inside, inside?_eq_some_iff.2 ⟨n, h, rfl⟩]

/-- A directory that is not accepted is complained about. -/
theorem inside_of_not_accepts (h : p.accepts directory = false) :
    p.inside directory =
      .error (.patternMismatch p.text (String.intercalate "/" directory)) := by
  have hnone : p.overlap? directory = none := by simpa [accepts] using h
  rw [inside, inside?, hnone]
  rfl

/-! ## The directory inside the module -/

/-- A directory inside a module begins as the pattern, ends as the directory it stands for, and no
other list that does so is shorter. -/
structure IsInside (p : Pattern) (directory inner : List String) : Prop where
  starts : p.elements <+: inner
  ends : directory <:+ inner
  shortest : ∀ other, p.elements <+: other → directory <:+ other → inner.length ≤ other.length

/-- Every overlap gives a list that begins as the pattern and ends as the directory. -/
theorem IsOverlap.joined (h : p.IsOverlap directory n) :
    p.elements <+: p.elements ++ directory.drop n ∧
      directory <:+ p.elements ++ directory.drop n :=
  ⟨List.prefix_append _ _, suffix_append_drop h.agree⟩

theorem isInside_of_overlap? (h : p.overlap? directory = some n) :
    p.IsInside directory (p.elements ++ directory.drop n) := by
  obtain ⟨hn, hlongest⟩ := overlap?_eq_some_iff.1 h
  refine ⟨hn.joined.1, hn.joined.2, fun other hstarts hends => ?_⟩
  have hwithin := hn.within
  have hstart := hstarts.length_le
  have hend := hends.length_le
  rw [List.length_append, List.length_drop]
  cases hnested : p.nested with
  | false =>
    have hcomplete := hn.complete hnested
    omega
  | true =>
    by_contra hshorter
    -- a shorter list would make for a longer overlap
    have hoverlap : p.IsOverlap directory (p.elements.length + directory.length - other.length) :=
      { positive := by omega
        within := by omega
        agree := overlap_of_prefix_of_suffix hstarts hends (by omega)
        complete := fun hexact => by
          rw [hexact] at hnested
          cases hnested }
    have hle := hlongest _ hoverlap
    omega

/-- The directory inside the module stands for itself. -/
theorem overlap?_joined (h : p.IsOverlap directory n) :
    p.overlap? (p.elements ++ directory.drop n) = some p.elements.length := by
  refine overlap?_eq_some_iff.2 ⟨⟨?_, ?_, ?_, fun hexact => ?_⟩, fun k hk => ?_⟩
  · have hpositive := h.positive
    have hwithin := h.within
    omega
  · rw [List.length_append]
    omega
  · rw [List.take_left, Nat.sub_self, List.drop_zero]
  · rw [h.complete hexact, List.drop_length, List.append_nil]
  · have hwithin := hk.within
    omega

/-- A directory that is accepted without subdirectories overlaps as far with them. -/
theorem overlap?_nested (h : (Pattern.mk elements false).overlap? directory = some n) :
    (Pattern.mk elements true).overlap? directory = some n := by
  obtain ⟨hn, -⟩ := overlap?_eq_some_iff.1 h
  have hcomplete := hn.complete rfl
  refine overlap?_eq_some_iff.2
    ⟨⟨hn.positive, hn.within, hn.agree, fun hexact => by cases hexact⟩, fun k hk => ?_⟩
  have hwithin := hk.within
  omega

/-- A pattern accepts the directories that it overlaps with.

The directory inside the module of one that is accepted follows from the longest overlap: it is the
shortest list that begins as the pattern and ends as the directory, and it stands for itself. One
that is not accepted has none. A directory that a pattern accepts without its subdirectories is
accepted with them, and is the same inside the module. -/
theorem accepts_iff_overlap (p : Pattern) (directory : List String) :
    (p.accepts directory = true ↔ ∃ n, p.IsOverlap directory n) ∧
    (p.accepts directory = true → ∃ n inner, p.inside directory = .ok inner ∧
      p.IsOverlap directory n ∧ inner = p.elements ++ directory.drop n ∧
      (∀ k, p.IsOverlap directory k → k ≤ n ∧
        inner.length ≤ (p.elements ++ directory.drop k).length) ∧
      p.IsInside directory inner ∧ p.inside inner = .ok inner) ∧
    (p.accepts directory = false → p.inside directory =
      .error (.patternMismatch p.text (String.intercalate "/" directory))) ∧
    ((Pattern.mk p.elements false).accepts directory = true →
      (Pattern.mk p.elements true).accepts directory = true ∧
        (Pattern.mk p.elements true).inside directory =
          (Pattern.mk p.elements false).inside directory) := by
  refine ⟨accepts_eq_true_iff, fun h => ?_, inside_of_not_accepts, fun h => ?_⟩
  · obtain ⟨n, hn⟩ := Option.isSome_iff_exists.1 h
    obtain ⟨hoverlap, hlongest⟩ := overlap?_eq_some_iff.1 hn
    have hinside := isInside_of_overlap? hn
    have hself := inside_of_overlap? (overlap?_joined hoverlap)
    rw [List.drop_left] at hself
    refine ⟨n, _, inside_of_overlap? hn, hoverlap, rfl, fun k hk => ⟨hlongest k hk, ?_⟩,
      hinside, hself⟩
    exact hinside.shortest _ hk.joined.1 hk.joined.2
  · obtain ⟨n, hn⟩ := Option.isSome_iff_exists.1 h
    have hnested := overlap?_nested hn
    exact ⟨Option.isSome_iff_exists.2 ⟨n, hnested⟩,
      (inside_of_overlap? hnested).trans (inside_of_overlap? hn).symm⟩

/-! ### Several overlaps -/

/-- A pattern that begins as it ends. -/
def bracketed : Pattern := ⟨["spine", "core", "spine"], true⟩

/-- Of a directory that begins as the pattern twice over, as much as possible is part of it. -/
theorem accepts_iff_overlap_bracketed :
    (bracketed.IsOverlap ["spine", "core", "spine", "net"] 1 ∧
      bracketed.IsOverlap ["spine", "core", "spine", "net"] 3) ∧
    (∃ n inner, bracketed.inside ["spine", "core", "spine", "net"] = .ok inner ∧ n = 3 ∧
      inner = ["spine", "core", "spine", "net"] ∧ bracketed.inside inner = .ok inner) ∧
    bracketed.inside ["net"] =
      .error (.patternMismatch bracketed.text (String.intercalate "/" ["net"])) ∧
    (Pattern.mk bracketed.elements true).inside ["spine"] =
      (Pattern.mk bracketed.elements false).inside ["spine"] := by
  have hshort : bracketed.IsOverlap ["spine", "core", "spine", "net"] 1 :=
    ⟨by decide, by decide, by decide, nofun⟩
  have hlong : bracketed.IsOverlap ["spine", "core", "spine", "net"] 3 :=
    ⟨by decide, by decide, by decide, nofun⟩
  obtain ⟨-, haccepted, -, -⟩ := accepts_iff_overlap bracketed ["spine", "core", "spine", "net"]
  obtain ⟨-, -, hrefused, -⟩ := accepts_iff_overlap bracketed ["net"]
  obtain ⟨-, -, -, hexact⟩ := accepts_iff_overlap bracketed ["spine"]
  obtain ⟨n, inner, hinner, hn, rfl, hlongest, -, hself⟩ := haccepted (by decide)
  have hwithin : n ≤ 3 := hn.within
  obtain rfl : n = 3 := Nat.le_antisymm hwithin (hlongest 3 hlong).1
  exact ⟨⟨hshort, hlong⟩, ⟨3, _, hinner, rfl, rfl, hself⟩, hrefused (by decide),
    (hexact (by decide)).2⟩

end Pattern

end Protogen.Import
