import Protogen.Proofs.Text.Lines

/-!
# Lines that a text has

* `StandsIn` finds a line between two line feeds, whatever is in the line; `HasLine` finds it among
  the lines of a text. What stands in a text is one of its lines if it is a line at all
  (`hasLine_of_standsIn`).
* `lines_foldEndings`: a text that is read with line feeds for all line ends has the same lines. It
  is the text itself if and only if there is no carriage return in it (`foldEndings_eq_self_iff`).
-/

set_option autoImplicit false

namespace Protogen.Text

variable {line text : String}

/-- A text with a line between two line feeds. -/
def StandsIn (line text : String) : Prop :=
  ∃ before after, text = before ++ "\n" ++ line ++ "\n" ++ after

/-- A text with a line of this content. -/
def HasLine (line text : String) : Prop := ∃ l ∈ lines text.toList, l.content = line.toList

theorem StandsIn.append_right (h : StandsIn line text) (more : String) :
    StandsIn line (text ++ more) := by
  obtain ⟨before, after, rfl⟩ := h
  exact ⟨before, after ++ more, by simp only [String.append_assoc]⟩

theorem StandsIn.append_left (h : StandsIn line text) (more : String) :
    StandsIn line (more ++ text) := by
  obtain ⟨before, after, rfl⟩ := h
  exact ⟨more ++ before, after, by simp only [String.append_assoc]⟩

theorem StandsIn.ne_empty (h : StandsIn line text) : text ≠ "" := by
  obtain ⟨before, after, rfl⟩ := h
  simp

/-- What stands in one of several texts stands in all of them together. -/
theorem StandsIn.join {texts : List String} (h : StandsIn line text) (hmem : text ∈ texts) :
    StandsIn line (String.join texts) := by
  obtain ⟨before, after, rfl⟩ := List.append_of_mem hmem
  rw [String.join_append, String.join_cons]
  exact (h.append_right _).append_left _

/-- What stands in a text is a line of it if it is not broken itself. -/
theorem hasLine_of_standsIn (h : StandsIn line text) (hline : isUnbroken line.toList = true) :
    HasLine line text := by
  obtain ⟨before, after, rfl⟩ := h
  refine ⟨⟨line.toList, ['\n']⟩, ?_, rfl⟩
  have hfeed : "\n".toList = ['\n'] := rfl
  have htext : (before ++ "\n" ++ line ++ "\n" ++ after).toList =
      (before.toList ++ ['\n']) ++ (line.toList ++ '\n' :: after.toList) := by
    simp only [String.toList_append, hfeed, List.append_assoc, List.cons_append, List.nil_append]
  have hrest : lines ('\n' :: after.toList) = ⟨[], ['\n']⟩ :: lines after.toList := rfl
  have hclosed : ∀ c, (before.toList ++ ['\n']).getLast? = some c →
      isBreak c = true ∧ (c = '\r' → (line.toList ++ '\n' :: after.toList).head? ≠ some '\n') := by
    intro c hc
    rw [List.getLast?_concat] at hc
    cases hc
    exact ⟨rfl, fun h => absurd h (by decide)⟩
  rw [htext, lines_append_of_closed hclosed, lines_append hline, hrest, foldr_consLine_cons,
    List.append_nil]
  simp

/-! ## Reading with line feeds -/

/-- A line read with a line feed for its end. -/
def Line.folded (l : Line) : Line := ⟨l.content, if l.ending = [] then [] else ['\n']⟩

theorem map_folded_consLine (c : Char) (ls : List Line) :
    (consLine c ls).map Line.folded = consLine c (ls.map Line.folded) := by
  cases ls <;> rfl

/-- The lines of a text that is read with line feeds for all line ends. -/
theorem lines_foldEndings (text : List Char) :
    lines (foldEndings text) = (lines text).map Line.folded := by
  fun_induction lines text with
  | case1 => rfl
  | case2 rest ih => simpa [foldEndings, lines, Line.folded] using ih
  | case3 c rest hpair hc ih =>
    have hread : foldEndings (c :: rest) = '\n' :: foldEndings rest := by
      rw [foldEndings]
      · rcases Bool.or_eq_true_iff.1 hc with h | h <;> rw [beq_iff_eq] at h <;> subst h <;> rfl
      · exact hpair
    rw [hread, List.map_cons, ← ih]
    rfl
  | case4 c rest hpair hc hquiet ih =>
    have hreturn : (c == '\r') = false := by
      simp only [Bool.not_eq_true, Bool.or_eq_false_iff] at hc
      exact hc.1
    rw [foldEndings, hreturn, List.map_cons, ← ih]
    · rw [if_neg (by decide), lines]
      · simp only [hc, hquiet]
        rfl
      · rintro more rfl
        cases hreturn
    · exact hpair
  | case5 c rest hpair hc hquiet ih =>
    have hbreak : isBreak c = false := by
      simp only [Bool.not_eq_true] at hc hquiet
      simp [isBreak, hc, hquiet]
    have hreturn : (c == '\r') = false := by
      simp only [Bool.not_eq_true, Bool.or_eq_false_iff] at hc
      exact hc.1
    rw [foldEndings, hreturn, if_neg (by decide), lines_cons _ hbreak, ih, map_folded_consLine]
    exact hpair

/-- A text that is read with line feeds for all line ends has the same lines. -/
theorem HasLine.foldEndings (h : HasLine line text) :
    HasLine line (String.ofList (foldEndings text.toList)) := by
  obtain ⟨l, hl, hcontent⟩ := h
  refine ⟨l.folded, ?_, hcontent⟩
  rw [String.toList_ofList, lines_foldEndings]
  exact List.mem_map_of_mem hl

/-- A text without carriage returns is read as it is, and no other one. -/
theorem foldEndings_eq_self_iff {text : List Char} : foldEndings text = text ↔ '\r' ∉ text := by
  fun_induction foldEndings text with
  | case1 => simp
  | case2 rest _ => simp
  | case3 c rest _ ih =>
    by_cases hc : c = '\r'
    · simp [hc]
    · simp [hc, ih, Ne.symm hc]

theorem length_folded_ending_le (l : Line) : l.folded.ending.length ≤ l.ending.length := by
  unfold Line.folded
  by_cases h : l.ending = []
  · simp [h]
  · rw [if_neg h]
    exact List.length_pos_iff.2 h

theorem length_unlines_map_folded_le (ls : List Line) :
    (unlines (ls.map Line.folded)).length ≤ (unlines ls).length := by
  induction ls with
  | nil => exact Nat.le_refl _
  | cons l ls ih =>
    have hl := length_folded_ending_le l
    have hcontent : l.folded.content = l.content := rfl
    simp only [List.map_cons, unlines_cons, List.length_append, hcontent]
    omega

/-- Reading with line feeds changes a text of lines if it changes one of the lines. -/
theorem unlines_map_folded_eq_iff {ls : List Line} :
    unlines (ls.map Line.folded) = unlines ls ↔ ∀ l ∈ ls, l.folded = l := by
  constructor
  · intro h
    induction ls with
    | nil => simp
    | cons l ls ih =>
      have hcontent : l.folded.content = l.content := rfl
      simp only [List.map_cons, unlines_cons, hcontent, List.append_cancel_left_eq] at h
      -- neither the ending nor the rest gets longer, so both keep their lengths
      have hlength : l.folded.ending.length = l.ending.length := by
        have hboth := congrArg List.length h
        have hl := length_folded_ending_le l
        have hrest := length_unlines_map_folded_le ls
        simp only [List.length_append] at hboth
        omega
      obtain ⟨hending, hrest⟩ := List.append_inj h hlength
      intro l' hl'
      rcases List.mem_cons.1 hl' with rfl | hl'
      · exact congrArg (Line.mk _) hending
      · exact ih hrest l' hl'
  · intro h
    rw [List.map_congr_left h, List.map_id']

end Protogen.Text
