import Mathlib.Logic.Relation
import Protogen.Proofs.Import.Rewrite
import Protogen.Proofs.Import.Stored

/-!
# Passages of a text

A passage of whole lines is resolved apart from the text before and behind it.

* `Resolver.Becomes` is what comes of a text when its imports are resolved again and again, in any
  directories.
* `rewrite_passage`: where a passage has one result, that result stands in its place when the whole
  text is resolved, between what comes of the text before and behind.
-/

set_option autoImplicit false

namespace Protogen.Import

open Text

/-! ## Lines -/

theorem exists_append_of_forall₂ {α β : Type} {R : α → β → Prop} {as as' : List α} {bs : List β}
    (h : List.Forall₂ R (as ++ as') bs) :
    ∃ cs cs', bs = cs ++ cs' ∧ List.Forall₂ R as cs ∧ List.Forall₂ R as' cs' := by
  refine ⟨bs.take as.length, bs.drop as.length, (List.take_append_drop _ _).symm, ?_, ?_⟩
  · have htake := List.forall₂_take as.length h
    rwa [List.take_left] at htake
  · have hdrop := List.forall₂_drop as.length h
    rwa [List.drop_left] at hdrop

/-- The last line is closed where the text closes with a line feed. -/
theorem exists_closed_line {ls : List Line} (h : AreLines ls)
    (hfed : (unlines ls).getLast? = some '\n') : ∃ init l, ls = init ++ [l] ∧ l.ending ≠ [] := by
  have hbreak : ∀ content : List Char, isUnbroken content = true →
      content.getLast? ≠ some '\n' := by
    intro content hcontent hlast
    have hmem := List.mem_of_getLast? hlast
    have hclean := List.all_eq_true.1 hcontent _ hmem
    exact absurd hclean (by decide)
  have hlater : ∀ {l : Line} {rest : List Line}, AreLines rest → rest ≠ [] →
      (unlines (l :: rest)).getLast? = some '\n' → (unlines rest).getLast? = some '\n' := by
    intro l rest hrest hne hlast
    have htext : unlines rest ≠ [] := by
      intro hnil
      have hlines := lines_unlines hrest
      rw [hnil] at hlines
      exact hne hlines.symm
    rwa [unlines_cons, ← List.append_assoc, List.getLast?_append_of_ne_nil _ htext] at hlast
  induction h with
  | nil => cases hfed
  | @last content hne hcontent =>
    simp only [unlines, List.flatMap_cons, List.flatMap_nil, List.append_nil] at hfed
    exact absurd hfed (hbreak content hcontent)
  | @fed content ending rest hcontent hending hrest ih =>
    by_cases hne : rest = []
    · subst hne
      refine ⟨[], _, rfl, ?_⟩
      rcases hending with rfl | rfl <;> simp
    · obtain ⟨init, l, rfl, hl⟩ := ih (hlater hrest hne hfed)
      exact ⟨_ :: init, l, rfl, hl⟩
  | @returned content rest hcontent hfeed hrest ih =>
    by_cases hne : rest = []
    · subst hne
      simp [unlines] at hfed
    · obtain ⟨init, l, rfl, hl⟩ := ih (hlater hrest hne hfed)
      exact ⟨_ :: init, l, rfl, hl⟩
  | @quiet content c rest hcontent hc hrest ih =>
    by_cases hne : rest = []
    · subst hne
      simp only [unlines, List.flatMap_cons, List.flatMap_nil, List.append_nil,
        List.getLast?_concat, Option.some.injEq] at hfed
      subst hfed
      exact absurd hc (by decide)
    · obtain ⟨init, l, rfl, hl⟩ := ih (hlater hrest hne hfed)
      exact ⟨_ :: init, l, rfl, hl⟩

/-- A text that closes with a line feed still does so when its lines are resolved. -/
theorem isFed_of_edges {text : String} (h : IsFed text) {ls : List Line}
    (hedges : List.Forall₂ SameEdges (lines text.toList) ls) :
    IsFed (String.ofList (unlines (ls.map Line.folded))) := by
  obtain ⟨init, l, hlines, hclosed⟩ := exists_closed_line (areLines_lines text.toList)
    (by rw [unlines_lines]; exact h)
  rw [hlines] at hedges
  obtain ⟨init', last, rfl, -, hlast⟩ := exists_append_of_forall₂ hedges
  cases hlast with
  | @cons _ l' _ _ hl hnil =>
    cases hnil
    have hending : l'.folded.ending = ['\n'] := by
      rw [Line.folded, if_neg (hl.ending ▸ hclosed)]
    rw [IsFed, String.toList_ofList, List.map_append, List.map_singleton, unlines,
      List.flatMap_append, List.flatMap_singleton, hending, ← List.append_assoc,
      List.getLast?_concat]

/-! ## Passages -/

namespace Resolver

variable {r : Resolver} {directory : Path} {before passage result after new : String}

/-- What comes of a text when its imports are resolved, any number of times and in any
directories. -/
def Becomes (r : Resolver) : String → String → Prop :=
  Relation.ReflTransGen fun text next => ∃ directory,
    r.resolveText directory (String.ofList (foldEndings text.toList)) = .ok next

theorem becomes_of_forall₂ {text : String} {ls : List Line}
    (h : List.Forall₂ (fun l l' => r.resolveLine directory l = .ok l') (lines text.toList) ls) :
    r.Becomes text (String.ofList (unlines (ls.map Line.folded))) :=
  .single ⟨directory, resolveText_foldEndings_iff.2 ⟨ls, h, String.toList_ofList⟩⟩

/-- A passage of lines, each closed by a line feed, that resolve to a given text. -/
structure Turns (r : Resolver) (directory : Path) (passage result : String) : Prop where
  fed : IsFed passage
  endings : ∀ l ∈ lines passage.toList, l.ending = ['\n']
  result : ∀ ls,
    List.Forall₂ (fun l l' => r.resolveLine directory l = .ok l') (lines passage.toList) ls →
      unlines ls = result.toList

/-- Two passages, one behind the other. -/
theorem Turns.append {next nextResult : String} (h : r.Turns directory passage result)
    (hnext : r.Turns directory next nextResult) :
    r.Turns directory (passage ++ next) (result ++ nextResult) := by
  have hlines : lines (passage ++ next).toList = lines passage.toList ++ lines next.toList := by
    rw [String.toList_append, lines_append_of_isFed h.fed]
  refine ⟨hnext.fed.append passage, fun l hl => ?_, fun ls hall => ?_⟩
  · rw [hlines, List.mem_append] at hl
    exact hl.elim (h.endings l) (hnext.endings l)
  · rw [hlines] at hall
    obtain ⟨first, second, rfl, hfirst, hsecond⟩ := exists_append_of_forall₂ hall
    rw [String.toList_append, ← h.result first hfirst, ← hnext.result second hsecond, unlines,
      unlines, unlines, List.flatMap_append]

/-- The line of a statement turns into that of what the statement is resolved to. -/
theorem turns_statement {s : Statement} (hline : isUnbroken s.text.toList = true)
    (hread : statementIn directory ⟨s.text.toList, ['\n']⟩ = .ok (some s)) :
    r.Turns directory (s.text ++ "\n") ((r.resolve s).text ++ "\n") := by
  refine ⟨isFed_feed _, fun l hl => ?_, fun ls hall => ?_⟩
  · rw [lines_feed hline, List.mem_singleton] at hl
    rw [hl]
  · rw [lines_feed hline] at hall
    cases hall with
    | cons hfirst hnil =>
      cases hnil
      rcases resolveLine_eq_ok_iff.1 hfirst with ⟨hnone, -⟩ | ⟨s', u, hs', hu, rfl⟩
      · rw [hread] at hnone
        cases hnone
      · rw [hread] at hs'
        obtain rfl := Option.some.inj (Except.ok.inj hs')
        rw [(checked_eq_ok_iff.1 hu).2, String.toList_append, unlines, List.flatMap_singleton]
        rfl

theorem Turns.map_folded (h : r.Turns directory passage result) {ls : List Line}
    (hall : List.Forall₂ (fun l l' => r.resolveLine directory l = .ok l')
      (lines passage.toList) ls) : ls.map Line.folded = ls := by
  have hedges := hall.imp fun _ _ => sameEdges_resolveLine
  have hendings : ∀ l ∈ ls, l.folded = l := by
    rw [forall_folded_iff_of_edges hedges]
    intro l hl
    obtain ⟨content, ending⟩ := l
    obtain rfl : ending = ['\n'] := h.endings _ hl
    rfl
  rw [List.map_congr_left hendings, List.map_id']

/-- The result of a passage stands in its place when the whole text is resolved. -/
theorem rewrite_passage (hbefore : IsFed before) (hpassage : r.Turns directory passage result)
    (h : r.rewrite directory (before ++ passage ++ after) = .ok new) :
    ∃ before' after', new = before' ++ result ++ after' ∧ IsFed before' ∧
      r.Becomes before before' ∧ r.Becomes after after' := by
  have hlines : lines (before ++ passage ++ after).toList =
      lines before.toList ++ (lines passage.toList ++ lines after.toList) := by
    rw [String.toList_append, String.toList_append, List.append_assoc,
      lines_append_of_isFed hbefore, lines_append_of_isFed hpassage.fed]
  obtain ⟨resolved, hresolved, hnew⟩ := rewrite_eq_ok_iff.1 h
  by_cases hself : resolved = String.ofList (foldEndings (before ++ passage ++ after).toList)
  · -- nothing changes, so the passage is its own result
    rw [if_pos hself] at hnew
    rw [hself, resolveText_self_foldEndings_iff, resolveText_self_iff, hlines] at hresolved
    have hsame := hpassage.result (lines passage.toList)
      (List.forall₂_same.2 fun l hl => hresolved l (by simp [hl]))
    rw [unlines_lines, String.toList_inj] at hsame
    exact ⟨before, after, by rw [hnew, hsame], hbefore, .refl, .refl⟩
  · rw [if_neg hself] at hnew
    obtain ⟨ls, hall, htext⟩ := resolveText_foldEndings_iff.1 hresolved
    rw [hlines] at hall
    obtain ⟨first, rest, rfl, hfirst, hall⟩ := exists_append_of_forall₂ hall
    obtain ⟨middle, last, rfl, hmiddle, hlast⟩ := exists_append_of_forall₂ hall
    refine ⟨_, _, ?_, isFed_of_edges hbefore (hfirst.imp fun _ _ => sameEdges_resolveLine),
      becomes_of_forall₂ hfirst, becomes_of_forall₂ hlast⟩
    rw [hnew, ← String.toList_inj, htext, List.map_append, List.map_append,
      hpassage.map_folded hmiddle, String.toList_append, String.toList_append,
      ← hpassage.result middle hmiddle, String.toList_ofList, String.toList_ofList, unlines,
      unlines, unlines, unlines, List.flatMap_append, List.flatMap_append, List.append_assoc]

/-! ## Texts that can be resolved -/

/-- A text of whole lines of which each import can be resolved. -/
structure IsResolvable (r : Resolver) (directory : Path) (text : String) : Prop where
  fed : text = "" ∨ IsFed text
  lines : ∀ l ∈ lines text.toList, ∃ l', r.resolveLine directory l = .ok l'

namespace IsResolvable

variable {text rest : String}

theorem of_isStill (h : IsStill r directory text) : r.IsResolvable directory text :=
  ⟨h.fed, fun l hl => ⟨l, resolveText_self_iff.1 h.same l hl⟩⟩

theorem append (htext : r.IsResolvable directory text) (hrest : r.IsResolvable directory rest) :
    r.IsResolvable directory (text ++ rest) := by
  rcases htext.fed with rfl | hfed
  · rw [String.empty_append]
    exact hrest
  · constructor
    · rcases hrest.fed with rfl | hfed'
      · rw [String.append_empty]
        exact .inr hfed
      · exact .inr (hfed'.append text)
    · intro l hl
      rw [String.toList_append, lines_append_of_isFed hfed, List.mem_append] at hl
      exact hl.elim (htext.lines l) (hrest.lines l)

/-- A line with an import that can be resolved. -/
theorem of_statement {s : Statement} (hline : isUnbroken s.text.toList = true)
    (hread : statementIn directory ⟨s.text.toList, ['\n']⟩ = .ok (some s)) {u : Statement}
    (hu : r.checked s = .ok u) : r.IsResolvable directory (s.text ++ "\n") := by
  refine ⟨.inr (isFed_feed _), fun l hl => ?_⟩
  rw [lines_feed hline, List.mem_singleton] at hl
  rw [hl]
  exact ⟨_, resolveLine_eq_ok_iff.2 (.inr ⟨s, u, hread, hu, rfl⟩)⟩

theorem exists_resolveText (h : r.IsResolvable directory text) :
    ∃ next, r.resolveText directory (String.ofList (foldEndings text.toList)) = .ok next := by
  obtain ⟨ls, hls⟩ := exists_mapM_iff.2 h.lines
  exact ⟨_, resolveText_foldEndings_iff.2 ⟨ls, mapM_eq_ok_iff.1 hls, String.toList_ofList⟩⟩

end IsResolvable

end Resolver

end Protogen.Import
