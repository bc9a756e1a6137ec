import Mathlib.Data.List.Forall2
import Protogen.Text.Lines

/-!
# Lines of a text, put together again

A list of lines is that of the text they make up exactly if each line is closed where the next one
begins. A change inside a line does not reach the lines around it.

* `AreLines` says how lines follow each other; `areLines_lines` and `lines_unlines` make it the
  range of `lines`.
* `SameEdges` relates a line to one that is changed inside: `AreLines.lines_unlines_of_edges`
  splits the changed lines one by one, and by `AreLines.eq_of_edges` the whole text shows whether
  one of them is changed.
* `IsFed` texts close with a line feed, so that the next line starts behind them
  (`lines_append_of_isFed`).
-/

set_option autoImplicit false

namespace Protogen.Text

/-- Boundaries of lines. -/
def isBreak (c : Char) : Bool := c == '\r' || c == '\n' || isQuietBreak c

/-- Whether a text has no boundary of lines. -/
def isUnbroken (text : List Char) : Bool := text.all fun c => !isBreak c

theorem isUnbroken_append {text rest : List Char} :
    isUnbroken (text ++ rest) = true ↔ isUnbroken text = true ∧ isUnbroken rest = true := by
  simp [isUnbroken]

theorem isUnbroken_cons {c : Char} {text : List Char} :
    isUnbroken (c :: text) = true ↔ isBreak c = false ∧ isUnbroken text = true := by
  simp [isUnbroken]

/-- Lines that follow each other in a text. -/
inductive AreLines : List Line → Prop
  | nil : AreLines []
  /-- the last line, if nothing closes it -/
  | last {content : List Char} (hne : content ≠ []) (h : isUnbroken content = true) :
    AreLines [⟨content, []⟩]
  | fed {content ending : List Char} {rest : List Line} (h : isUnbroken content = true)
    (hending : ending = ['\n'] ∨ ending = ['\r', '\n']) (hrest : AreLines rest) :
    AreLines (⟨content, ending⟩ :: rest)
  /-- a carriage return does not stand in front of a line feed -/
  | returned {content : List Char} {rest : List Line} (h : isUnbroken content = true)
    (hfeed : (unlines rest).head? ≠ some '\n') (hrest : AreLines rest) :
    AreLines (⟨content, ['\r']⟩ :: rest)
  | quiet {content : List Char} {c : Char} {rest : List Line} (h : isUnbroken content = true)
    (hc : isQuietBreak c = true) (hrest : AreLines rest) :
    AreLines (⟨content ++ [c], []⟩ :: rest)

/-! ## Splitting -/

theorem lines_cons {c : Char} (rest : List Char) (h : isBreak c = false) :
    lines (c :: rest) = consLine c (lines rest) := by
  simp only [isBreak, Bool.or_eq_false_iff, beq_eq_false_iff_ne] at h
  obtain ⟨⟨hreturn, hfeed⟩, hquiet⟩ := h
  simp [lines, hreturn, hfeed, hquiet]

theorem lines_append {content : List Char} (h : isUnbroken content = true) (rest : List Char) :
    lines (content ++ rest) = content.foldr consLine (lines rest) := by
  induction content with
  | nil => rfl
  | cons c content ih =>
    rw [isUnbroken_cons] at h
    rw [List.cons_append, lines_cons _ h.1, ih h.2, List.foldr_cons]

theorem foldr_consLine_cons (content : List Char) (l : Line) (ls : List Line) :
    content.foldr consLine (l :: ls) = ⟨content ++ l.content, l.ending⟩ :: ls := by
  induction content with
  | nil => rfl
  | cons c content ih => rw [List.foldr_cons, ih, consLine, List.cons_append]

theorem foldr_consLine_nil {content : List Char} (hne : content ≠ []) :
    content.foldr consLine [] = [⟨content, []⟩] := by
  induction content with
  | nil => exact absurd rfl hne
  | cons c content ih =>
    cases content with
    | nil => rfl
    | cons d content => rw [List.foldr_cons, ih (List.cons_ne_nil _ _), consLine]

theorem unlines_cons (l : Line) (ls : List Line) :
    unlines (l :: ls) = l.content ++ (l.ending ++ unlines ls) := by
  simp [unlines]

theorem lines_unlines {ls : List Line} (h : AreLines ls) : lines (unlines ls) = ls := by
  induction h with
  | nil => rfl
  | last hne h =>
    rw [unlines_cons, lines_append h]
    exact foldr_consLine_nil hne
  | @fed content ending rest h hending hrest ih =>
    have hlines : lines (ending ++ unlines rest) = ⟨[], ending⟩ :: rest := by
      rcases hending with rfl | rfl <;> simp [lines, ih]
    rw [unlines_cons, lines_append h, hlines, foldr_consLine_cons, List.append_nil]
  | @returned content rest h hfeed hrest ih =>
    have hlines : lines ('\r' :: unlines rest) = ⟨[], ['\r']⟩ :: rest := by
      have hne : ∀ more, unlines rest ≠ '\n' :: more := by
        intro more heq
        rw [heq] at hfeed
        exact hfeed rfl
      rw [lines]
      · simp [ih]
      · intro more _ heq
        exact hne more heq
    rw [unlines_cons, lines_append h]
    exact (congrArg (List.foldr consLine · content) hlines).trans
      ((foldr_consLine_cons _ _ _).trans (by simp))
  | @quiet content c rest h hc hrest ih =>
    have hlines : lines (c :: unlines rest) = ⟨[c], []⟩ :: rest := by
      have hbreak : c ≠ '\r' ∧ c ≠ '\n' := by
        constructor <;> rintro rfl <;> exact absurd hc (by decide)
      simp [lines, hbreak, hc, ih]
    rw [unlines_cons, List.nil_append, List.append_assoc, lines_append h, List.singleton_append,
      hlines, foldr_consLine_cons]

theorem areLines_consLine {c : Char} {ls : List Line} (hc : isBreak c = false) (h : AreLines ls) :
    AreLines (consLine c ls) := by
  cases h with
  | nil => exact .last (List.cons_ne_nil _ _) (by simp [isUnbroken, hc])
  | last hne h => exact .last (List.cons_ne_nil _ _) (isUnbroken_cons.2 ⟨hc, h⟩)
  | fed h hending hrest => exact .fed (isUnbroken_cons.2 ⟨hc, h⟩) hending hrest
  | returned h hfeed hrest => exact .returned (isUnbroken_cons.2 ⟨hc, h⟩) hfeed hrest
  | quiet h hbreak hrest => exact .quiet (isUnbroken_cons.2 ⟨hc, h⟩) hbreak hrest

theorem areLines_lines (text : List Char) : AreLines (lines text) := by
  fun_induction lines text with
  | case1 => exact .nil
  | case2 rest ih => exact .fed rfl (.inr rfl) ih
  | case3 c rest hpair hc ih =>
    rw [Bool.or_eq_true, beq_iff_eq, beq_iff_eq] at hc
    rcases hc with rfl | rfl
    · refine .returned rfl ?_ ih
      rw [unlines_lines]
      intro hfeed
      obtain ⟨more, rfl⟩ := List.head?_eq_some_iff.1 hfeed
      exact hpair more rfl rfl
    · exact .fed rfl (.inl rfl) ih
  | case4 c rest hpair hc hquiet ih =>
    have hempty : isUnbroken [] = true := rfl
    exact .quiet hempty hquiet ih
  | case5 c rest hpair hc hquiet ih =>
    refine areLines_consLine ?_ ih
    simp only [Bool.not_eq_true] at hc hquiet
    simp [isBreak, hc, hquiet]

/-- A line of a text is the only line of its own text. -/
theorem AreLines.singleton {ls : List Line} (h : AreLines ls) {l : Line} (hl : l ∈ ls) :
    AreLines [l] := by
  induction h with
  | nil => cases hl
  | last hne h =>
    rw [List.mem_singleton] at hl
    subst hl
    exact .last hne h
  | fed h hending hrest ih =>
    rcases List.mem_cons.1 hl with rfl | hl
    · exact .fed h hending .nil
    · exact ih hl
  | returned h hfeed hrest ih =>
    rcases List.mem_cons.1 hl with rfl | hl
    · exact .returned h (by simp [unlines]) .nil
    · exact ih hl
  | quiet h hc hrest ih =>
    rcases List.mem_cons.1 hl with rfl | hl
    · exact .quiet h hc .nil
    · exact ih hl

theorem lines_of_mem {text : List Char} {l : Line} (hl : l ∈ lines text) :
    lines (l.content ++ l.ending) = [l] := by
  have hlines := lines_unlines ((areLines_lines text).singleton hl)
  rwa [unlines_cons, show unlines [] = [] from rfl, List.append_nil] at hlines

/-- A boundary inside a line can only be its last character. -/
theorem isUnbroken_dropLast {text : List Char} {l : Line} (hl : l ∈ lines text) :
    isUnbroken l.content.dropLast = true := by
  have hdropLast : ∀ {content : List Char}, isUnbroken content = true →
      isUnbroken content.dropLast = true := by
    intro content hcontent
    simp only [isUnbroken, List.all_eq_true] at hcontent ⊢
    exact fun c hc => hcontent c (List.dropLast_subset _ hc)
  cases (areLines_lines text).singleton hl with
  | last hne h => exact hdropLast h
  | fed h hending hrest => exact hdropLast h
  | returned h hfeed hrest => exact hdropLast h
  | quiet h hc hrest => simpa using h

/-! ## Rewriting -/

/-- Lines with the same first and last characters and the same ending. -/
structure SameEdges (l l' : Line) : Prop where
  head? : l'.content.head? = l.content.head?
  getLast? : l'.content.getLast? = l.content.getLast?
  ending : l'.ending = l.ending

theorem SameEdges.refl (l : Line) : SameEdges l l := ⟨rfl, rfl, rfl⟩

theorem lines_ne_nil {text : List Char} (hne : text ≠ []) : lines text ≠ [] := by
  intro h
  have htext := unlines_lines text
  rw [h] at htext
  exact hne htext.symm

theorem consLine_append {ls : List Line} (hne : ls ≠ []) (c : Char) (more : List Line) :
    consLine c (ls ++ more) = consLine c ls ++ more := by
  obtain ⟨l, ls, rfl⟩ := List.exists_cons_of_ne_nil hne
  rfl

/-- A text that closes with a boundary is split apart from what follows it. -/
theorem lines_append_of_closed {text rest : List Char}
    (h : ∀ c, text.getLast? = some c →
      isBreak c = true ∧ (c = '\r' → rest.head? ≠ some '\n')) :
    lines (text ++ rest) = lines text ++ lines rest := by
  fun_induction lines text with
  | case1 => rfl
  | case2 text ih =>
    have hrest : lines (text ++ rest) = lines text ++ lines rest := by
      apply ih
      intro c hc
      exact h c (by simp [List.getLast?_cons, hc])
    simp only [List.cons_append, lines, hrest]
  | case3 c text hpair hc ih =>
    have hrest : lines (text ++ rest) = lines text ++ lines rest := by
      apply ih
      intro d hd
      exact h d (by simp [List.getLast?_cons, hd])
    have hpair' : ∀ more, c = '\r' → text ++ rest = '\n' :: more → False := by
      intro more hreturn heq
      cases text with
      | nil => exact (h c rfl).2 hreturn (by rw [List.nil_append] at heq; rw [heq]; rfl)
      | cons d text =>
        cases heq
        exact hpair text hreturn rfl
    rw [List.cons_append, lines]
    · simp [hc, hrest]
    · exact hpair'
  | case4 c text hpair hc hquiet ih =>
    have hrest : lines (text ++ rest) = lines text ++ lines rest := by
      apply ih
      intro d hd
      exact h d (by simp [List.getLast?_cons, hd])
    have hreturn : c ≠ '\r' := by
      rintro rfl
      exact hc rfl
    rw [List.cons_append, lines]
    · simp [hc, hquiet, hrest]
    · exact fun _ heq _ => hreturn heq
  | case5 c text hpair hc hquiet ih =>
    have hbreak : isBreak c = false := by
      simp only [Bool.not_eq_true] at hc hquiet
      simp [isBreak, hc, hquiet]
    have hne : text ≠ [] := by
      rintro rfl
      rw [(h c rfl).1] at hbreak
      cases hbreak
    have hrest : lines (text ++ rest) = lines text ++ lines rest := by
      apply ih
      intro d hd
      exact h d (by simp [List.getLast?_cons, hd])
    rw [List.cons_append, lines_cons _ hbreak, hrest, consLine_append (lines_ne_nil hne)]

theorem map_content_consLine {ls ls' : List Line}
    (h : ls.map Line.content = ls'.map Line.content) (c : Char) :
    (consLine c ls).map Line.content = (consLine c ls').map Line.content := by
  cases ls with
  | nil =>
    cases ls' with
    | nil => rfl
    | cons l' ls' => cases h
  | cons l ls =>
    cases ls' with
    | nil => cases h
    | cons l' ls' =>
      obtain ⟨hl, hrest⟩ := List.cons_eq_cons.1 h
      simp [consLine, hl, hrest]

/-- An ending behind a text that does not close with a boundary belongs to its last line. -/
theorem map_content_lines_append {text ending : List Char} {c : Char}
    (hlast : text.getLast? = some c) (hc : isBreak c = false)
    (hending : ending = ['\n'] ∨ ending = ['\r', '\n'] ∨ ending = ['\r']) :
    (lines (text ++ ending)).map Line.content = (lines text).map Line.content := by
  -- the last character of the text is behind the first one unless it is that one
  have htail : ∀ {d : Char} {rest : List Char}, (d :: rest).getLast? = some c →
      isBreak d = true → rest.getLast? = some c := by
    intro d rest hd hbreak
    cases rest with
    | nil =>
      obtain rfl : d = c := by simpa using hd
      rw [hbreak] at hc
      cases hc
    | cons e rest => simpa [List.getLast?_cons] using hd
  fun_induction lines text with
  | case1 => cases hlast
  | case2 text ih =>
    have hrest := ih (htail (htail hlast rfl) rfl)
    simp [lines, hrest]
  | case3 d text hpair hd ih =>
    have hbreak : isBreak d = true := by
      rw [Bool.or_eq_true] at hd
      rcases hd with hd | hd <;> simp [isBreak, hd]
    have htext := htail hlast hbreak
    have hpair' : ∀ more, d = '\r' → text ++ ending = '\n' :: more → False := by
      intro more hreturn heq
      cases text with
      | nil => cases htext
      | cons e text =>
        cases heq
        exact hpair text hreturn rfl
    rw [List.cons_append, lines]
    · simp [hd, ih htext]
    · exact hpair'
  | case4 d text hpair hd hquiet ih =>
    have htext := htail hlast (by simp [isBreak, hquiet])
    have hreturn : d ≠ '\r' := by
      rintro rfl
      exact hd rfl
    rw [List.cons_append, lines]
    · simp [hd, hquiet, ih htext]
    · exact fun _ heq _ => hreturn heq
  | case5 d text hpair hd hquiet ih =>
    have hbreak : isBreak d = false := by
      simp only [Bool.not_eq_true] at hd hquiet
      simp [isBreak, hd, hquiet]
    rw [List.cons_append, lines_cons _ hbreak]
    cases text with
    | nil => rcases hending with rfl | rfl | rfl <;> rfl
    | cons e text =>
      apply map_content_consLine
      apply ih
      simpa [List.getLast?_cons] using hlast

theorem isUnbroken_iff_dropLast {content : List Char} :
    isUnbroken content = true ↔
      isUnbroken content.dropLast = true ∧ ∀ c, content.getLast? = some c → isBreak c = false := by
  rcases List.eq_nil_or_concat content with rfl | ⟨init, last, rfl⟩
  · simp [isUnbroken]
  · simp [isUnbroken]

/-- A line that is changed inside, without another boundary, is one line. -/
theorem AreLines.of_edges {l l' : Line} (h : AreLines [l]) (hr : SameEdges l l')
    (hinside : isUnbroken l'.content.dropLast = true) : AreLines [l'] := by
  obtain ⟨content', ending'⟩ := l'
  have hunbroken : isUnbroken l.content = true → isUnbroken content' = true := by
    intro hl
    refine isUnbroken_iff_dropLast.2 ⟨hinside, ?_⟩
    rw [show content'.getLast? = l.content.getLast? from hr.getLast?]
    exact (isUnbroken_iff_dropLast.1 hl).2
  obtain rfl : ending' = l.ending := hr.ending
  cases h with
  | last hne h =>
    refine .last ?_ (hunbroken h)
    rintro rfl
    exact hne (List.getLast?_eq_none_iff.1 hr.getLast?.symm)
  | fed h hending hrest => exact .fed (hunbroken h) hending .nil
  | returned h hfeed hrest => exact .returned (hunbroken h) hfeed .nil
  | @quiet content c _ h hc hrest =>
    have hlast : content'.getLast? = some c := by
      rw [show content'.getLast? = (content ++ [c]).getLast? from hr.getLast?]
      simp
    rw [← List.dropLast_append_getLast? c hlast]
    exact .quiet hinside hc .nil

/-- An ending that a line has is that of the last line into which its change is split. -/
theorem AreLines.map_content_of_edges {l l' : Line} (h : AreLines [l]) (hr : SameEdges l l')
    (hne : l.content ≠ []) :
    (lines (l'.content ++ l'.ending)).map Line.content = (lines l'.content).map Line.content := by
  have hlast : isUnbroken l.content = true →
      ∃ c, l'.content.getLast? = some c ∧ isBreak c = false := by
    intro hl
    obtain ⟨c, hc⟩ := Option.isSome_iff_exists.1 (List.getLast?_isSome.2 hne)
    exact ⟨c, hr.getLast?.trans hc, (isUnbroken_iff_dropLast.1 hl).2 c hc⟩
  rw [hr.ending]
  cases h with
  | last hne h => rw [List.append_nil]
  | quiet h hc hrest => rw [List.append_nil]
  | fed h hending hrest =>
    obtain ⟨c, hc, hbreak⟩ := hlast h
    exact map_content_lines_append hc hbreak (hending.imp id .inl)
  | returned h hfeed hrest =>
    obtain ⟨c, hc, hbreak⟩ := hlast h
    exact map_content_lines_append hc hbreak (.inr (.inr rfl))

/-- Changes inside the lines keep the first character of the text. -/
theorem head?_unlines {ls ls' : List Line} (h : List.Forall₂ SameEdges ls ls') :
    (unlines ls').head? = (unlines ls).head? := by
  induction h with
  | nil => rfl
  | cons hl hrest ih =>
    simp only [unlines_cons, List.head?_append, ih, hl.head?, hl.ending]

/-- Lines that are changed inside are split one by one. -/
theorem AreLines.lines_unlines_of_edges {ls ls' : List Line} (h : AreLines ls)
    (hr : List.Forall₂ SameEdges ls ls') :
    lines (unlines ls') = ls'.flatMap fun l => lines (l.content ++ l.ending) := by
  induction h generalizing ls' with
  | nil =>
    cases hr
    rfl
  | last hne h =>
    cases hr with
    | cons hl hrest =>
      cases hrest
      simp [unlines]
  | @fed content ending rest h hending hrest ih =>
    cases hr with
    | @cons _ l' _ ls' hl hr =>
      have hlast : (l'.content ++ l'.ending).getLast? = some '\n' := by
        rw [hl.ending]
        rcases hending with rfl | rfl <;> simp
      rw [unlines_cons, ← List.append_assoc, lines_append_of_closed, ih hr, List.flatMap_cons]
      intro c hc
      rw [hlast] at hc
      cases hc
      exact ⟨rfl, fun hreturn => absurd hreturn (by decide)⟩
  | @returned content rest h hfeed hrest ih =>
    cases hr with
    | @cons _ l' _ ls' hl hr =>
      have hlast : (l'.content ++ l'.ending).getLast? = some '\r' := by
        rw [hl.ending]
        simp
      rw [unlines_cons, ← List.append_assoc, lines_append_of_closed, ih hr, List.flatMap_cons]
      intro c hc
      rw [hlast] at hc
      cases hc
      refine ⟨rfl, fun _ => ?_⟩
      rw [head?_unlines hr]
      exact hfeed
  | @quiet content c rest h hc hrest ih =>
    cases hr with
    | @cons _ l' _ ls' hl hr =>
      have hlast : (l'.content ++ l'.ending).getLast? = some c := by
        have hcontent := hl.getLast?
        have hending := hl.ending
        simp only at hcontent hending
        rw [hending, List.append_nil, hcontent]
        simp
      rw [unlines_cons, ← List.append_assoc, lines_append_of_closed, ih hr, List.flatMap_cons]
      intro d hd
      rw [hlast] at hd
      cases hd
      refine ⟨by simp [isBreak, hc], ?_⟩
      rintro rfl
      exact absurd hc (by decide)

theorem AreLines.text_ne_nil {ls : List Line} (h : AreLines ls) {l : Line} (hl : l ∈ ls) :
    l.content ++ l.ending ≠ [] := by
  cases h.singleton hl with
  | last hne h => simpa using hne
  | fed h hending hrest => rcases hending with rfl | rfl <;> simp
  | returned h hfeed hrest => simp
  | quiet h hc hrest => simp

theorem length_le_flatMap {α β : Type} {f : α → List β} {as : List α} (hne : ∀ a, a ∈ as → f a ≠ []) :
    as.length ≤ (as.flatMap f).length := by
  induction as with
  | nil => simp
  | cons a as ih =>
    have hrest := ih fun b hb => hne b (List.mem_cons_of_mem _ hb)
    have hfirst := List.length_pos_iff.2 (hne a (List.mem_cons_self ..))
    rw [List.flatMap_cons, List.length_append, List.length_cons]
    omega

/-- Pieces that are not empty and not more than their items are items one by one. -/
theorem singletons_of_flatMap {α β : Type} {f : α → List β} {as : List α} {bs : List β}
    (hne : ∀ a, a ∈ as → f a ≠ []) (h : as.flatMap f = bs) (hlength : bs.length = as.length) :
    List.Forall₂ (fun b a => f a = [b]) bs as := by
  induction as generalizing bs with
  | nil =>
    subst h
    exact .nil
  | cons a as ih =>
    have hne' : ∀ a', a' ∈ as → f a' ≠ [] := fun a' ha' => hne a' (List.mem_cons_of_mem _ ha')
    obtain ⟨b, more, hfirst⟩ := List.exists_cons_of_ne_nil (hne a (List.mem_cons_self ..))
    have hle := length_le_flatMap hne'
    rw [List.flatMap_cons, hfirst] at h
    subst h
    simp only [List.length_append, List.length_cons] at hlength
    have hrest : (as.flatMap f).length = as.length := by omega
    obtain rfl : more = [] := List.length_eq_zero_iff.1 (by omega)
    exact .cons hfirst (ih hne' rfl hrest)

theorem SameEdges.text_ne_nil {l l' : Line} (h : SameEdges l l')
    (hne : l.content ++ l.ending ≠ []) : l'.content ++ l'.ending ≠ [] := by
  have hhead : (l'.content ++ l'.ending).head? = (l.content ++ l.ending).head? := by
    simp only [List.head?_append, h.head?, h.ending]
  intro hnil
  rw [hnil, List.head?_nil, eq_comm, List.head?_eq_none_iff] at hhead
  exact hne hhead

/-- Lines that are changed inside are unchanged if the text is. -/
theorem AreLines.eq_of_edges {ls ls' : List Line} (h : AreLines ls)
    (hr : List.Forall₂ SameEdges ls ls') (htext : unlines ls' = unlines ls) : ls' = ls := by
  have hne : ∀ l', l' ∈ ls' → lines (l'.content ++ l'.ending) ≠ [] := by
    intro l' hl'
    obtain ⟨i, hi, rfl⟩ := List.getElem_of_mem hl'
    have hi' : i < ls.length := hr.length_eq ▸ hi
    have hedges : SameEdges ls[i] ls'[i] := hr.get hi' hi
    exact lines_ne_nil (hedges.text_ne_nil (h.text_ne_nil (List.getElem_mem hi')))
  have hflat : (ls'.flatMap fun l => lines (l.content ++ l.ending)) = ls := by
    rw [← h.lines_unlines_of_edges hr, htext, lines_unlines h]
  have hpieces := singletons_of_flatMap hne hflat hr.length_eq
  clear hflat hne htext h
  induction hr with
  | nil => rfl
  | @cons l l' ls ls' hedges hrest ih =>
    cases hpieces with
    | cons hpiece hpieces =>
      have hl := unlines_lines (l'.content ++ l'.ending)
      rw [hpiece, hedges.ending] at hl
      have hcontent : l.content = l'.content := by simpa [unlines] using hl
      obtain ⟨content, ending⟩ := l
      obtain ⟨content', ending'⟩ := l'
      cases hcontent
      cases hedges.ending
      rw [ih hpieces]

/-! ## Texts of whole lines -/

theorem lines_feed {line : String} (h : isUnbroken line.toList = true) :
    lines (line ++ "\n").toList = [⟨line.toList, ['\n']⟩] := by
  have hfeed : lines "\n".toList = [⟨[], ['\n']⟩] := rfl
  rw [String.toList_append, lines_append h, hfeed, foldr_consLine_cons, List.append_nil]

/-- A text that closes with a line feed. -/
def IsFed (text : String) : Prop := text.toList.getLast? = some '\n'

theorem isFed_feed (text : String) : IsFed (text ++ "\n") := by
  rw [IsFed, String.toList_append]
  exact List.getLast?_concat

theorem IsFed.append (text : String) {rest : String} (h : IsFed rest) : IsFed (text ++ rest) := by
  rw [IsFed, String.toList_append, List.getLast?_append, h]
  rfl

theorem lines_append_of_isFed {text : String} (h : IsFed text) (rest : List Char) :
    lines (text.toList ++ rest) = lines text.toList ++ lines rest := by
  refine lines_append_of_closed fun c hc => ?_
  rw [h] at hc
  cases hc
  exact ⟨rfl, fun heq => absurd heq (by decide)⟩

end Protogen.Text
