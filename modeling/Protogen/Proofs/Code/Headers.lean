import Mathlib.Data.List.Count
import Protogen.Proofs.Code.Mark

/-!
# Open headers

* `openHeaders` are the places of the headers among some marks that no later mark closes; it looks
  at the marks only.
* `Disciplined` is what the marks of all its lines tell about a writer: its depth, the depths of its
  lines, and whether its code can be had.
* `Tracked.write` is one more line, and `Writes.disciplined` all lines of a writer that was new.
-/

set_option autoImplicit false

namespace Protogen.Code

/-- The places of the headers among some marks that no later one closes, innermost first. -/
def openHeaders (ms : List Mark) : List Nat :=
  ms.zipIdx.foldl (fun before m => m.1.track m.2 before) []

theorem openHeaders_concat (ms : List Mark) (m : Mark) :
    openHeaders (ms ++ [m]) = m.track ms.length (openHeaders ms) := by
  simp [openHeaders, List.zipIdx_append]

/-- What the marks of all its lines tell about a writer. -/
structure Disciplined (ms : List Mark) (w : Writer) : Prop where
  texts : w.lines.map Line.text = ms.map Mark.text
  /-- the depth is the number of headers that are not closed -/
  depth : w.depth = (openHeaders ms).length
  /-- every line that closes something closes one header -/
  count : w.depth + ms.countP Mark.closes = ms.countP Mark.opens
  /-- a line that closes nothing, empty ones apart, is as deep as headers were open before it -/
  outward : ∀ (i : Nat) m l, ms[i]? = some m → w.lines[i]? = some l → m.closes = false →
    l.text ≠ "" → l.depth = (openHeaders (ms.take i)).length
  /-- a line that closes a header, the innermost one that was open, is as deep as that -/
  inward : ∀ (i : Nat) m l, ms[i]? = some m → w.lines[i]? = some l → m.closes = true →
    ∃ j opened header, (openHeaders (ms.take i)).head? = some j ∧ ms[j]? = some opened ∧
      opened.opens = true ∧ w.lines[j]? = some header ∧ l.depth = header.depth
  /-- the code can be had if and only if no header is left open -/
  text : (∃ fault, w.text = .error fault) ↔ openHeaders ms ≠ []

/-- At some places, innermost first, there are headers, each as deep as there are places below. -/
def AreHeaders (ms : List Mark) (ls : List Line) : List Nat → Prop
  | [] => True
  | j :: below => (∃ opened header, ms[j]? = some opened ∧ opened.opens = true ∧
      ls[j]? = some header ∧ header.depth = below.length) ∧ AreHeaders ms ls below

namespace AreHeaders

variable {ms : List Mark} {ls : List Line} {places : List Nat}

theorem tail (h : AreHeaders ms ls places) : AreHeaders ms ls places.tail := by
  cases places with
  | nil => exact h
  | cons j below => exact h.2

theorem concat (h : AreHeaders ms ls places) (m : Mark) (l : Line) :
    AreHeaders (ms ++ [m]) (ls ++ [l]) places := by
  induction places with
  | nil => trivial
  | cons j below ih =>
    obtain ⟨⟨opened, header, hj, hopens, hline, hdepth⟩, hbelow⟩ := h
    refine ⟨⟨opened, header, ?_, hopens, ?_, hdepth⟩, ih hbelow⟩
    · rw [List.getElem?_append_left (List.getElem?_eq_some_iff.1 hj).1, hj]
    · rw [List.getElem?_append_left (List.getElem?_eq_some_iff.1 hline).1, hline]

/-- A new header. -/
theorem push (h : AreHeaders ms ls places) (hlength : ls.length = ms.length) {m : Mark}
    (hm : m.opens = true) {l : Line} (hl : l.depth = places.length) :
    AreHeaders (ms ++ [m]) (ls ++ [l]) (ms.length :: places) := by
  refine ⟨⟨m, l, List.getElem?_concat_length .., hm, ?_, hl⟩, h.concat m l⟩
  rw [← hlength]
  exact List.getElem?_concat_length ..

end AreHeaders

/-- A property of all pairs of items at the same place, when a pair is added. -/
theorem forall_getElem?_concat {α β : Type} {as : List α} {bs : List β} {a₀ : α} {b₀ : β}
    {P : Nat → α → β → Prop} (hlength : bs.length = as.length)
    (h : ∀ (i : Nat) a b, as[i]? = some a → bs[i]? = some b → P i a b) (hlast : P as.length a₀ b₀) :
    ∀ (i : Nat) a b, (as ++ [a₀])[i]? = some a → (bs ++ [b₀])[i]? = some b → P i a b := by
  intro i a b ha hb
  have hi := (List.getElem?_eq_some_iff.1 ha).1
  rw [List.length_append, List.length_singleton] at hi
  rcases Nat.lt_succ_iff_lt_or_eq.1 hi with hlt | rfl
  · rw [List.getElem?_append_left hlt] at ha
    rw [List.getElem?_append_left (hlength ▸ hlt)] at hb
    exact h i a b ha hb
  · rw [List.getElem?_concat_length] at ha
    rw [← hlength, List.getElem?_concat_length] at hb
    cases ha
    cases hb
    exact hlast

/-- The code can be had if no scope is open. -/
theorem Writer.text_fails_iff {w : Writer} : (∃ fault, w.text = .error fault) ↔ w.depth ≠ 0 := by
  unfold Writer.text Writer.depth
  cases w.scopes <;> simp

/-- What holds of a writer and of the marks of its lines while they are written. -/
structure Tracked (ms : List Mark) (w : Writer) : Prop extends Disciplined ms w where
  headers : AreHeaders ms w.lines (openHeaders ms)

namespace Tracked

variable {ms : List Mark} {w : Writer} {m : Mark}

theorem length (h : Tracked ms w) : w.lines.length = ms.length := by
  have hlength := congrArg List.length h.texts
  rwa [List.length_map, List.length_map] at hlength

/-- A header is open where one is closed. -/
theorem exists_openHeaders (h : Tracked ms w) (hm : m.Fits w.scopes) (hcloses : m.closes = true) :
    ∃ j below, openHeaders ms = j :: below ∧ w.depth = below.length + 1 := by
  have hlevel := h.depth
  have hpositive : 0 < w.depth :=
    List.length_pos_iff.2 (Mark.scopes_ne_nil_of_closes hm hcloses)
  cases hopen : openHeaders ms with
  | nil =>
    rw [hopen] at hlevel
    simp at hlevel
    omega
  | cons j below =>
    rw [hopen] at hlevel
    exact ⟨j, below, rfl, hlevel⟩

theorem depth_write (h : Tracked ms w) (m : Mark) :
    (w.write m).depth = (openHeaders (ms ++ [m])).length := by
  have hlevel := h.depth
  rw [openHeaders_concat]
  simp only [Writer.depth] at hlevel
  cases m <;> simp [Writer.depth, Writer.write, Mark.scopes, Mark.track, hlevel]

theorem count_write (h : Tracked ms w) (hm : m.Fits w.scopes) :
    (w.write m).depth + (ms ++ [m]).countP Mark.closes = (ms ++ [m]).countP Mark.opens := by
  have hcount := h.count
  rw [h.depth_write, openHeaders_concat, List.countP_append, List.countP_append,
    List.countP_singleton, List.countP_singleton]
  have hlevel := h.depth
  cases hcloses : m.closes with
  | false =>
    cases m with
    | plain | blank => simp [Mark.track, Mark.opens]; omega
    | header => simp [Mark.track, Mark.opens]; omega
    | otherwise | closing => cases hcloses
  | true =>
    obtain ⟨j, below, hopen, hdepth⟩ := h.exists_openHeaders hm hcloses
    cases m with
    | plain | blank | header => cases hcloses
    | otherwise => simp [Mark.track, Mark.opens, hopen]; omega
    | closing => simp [Mark.track, Mark.opens, hopen]; omega

theorem headers_write (h : Tracked ms w) (hm : m.Fits w.scopes) :
    AreHeaders (ms ++ [m]) (w.write m).lines (openHeaders (ms ++ [m])) := by
  rw [openHeaders_concat]
  cases m with
  | plain | blank => exact h.headers.concat _ _
  | header => exact h.headers.push h.length rfl h.depth
  | closing => exact h.headers.tail.concat _ _
  | otherwise =>
    obtain ⟨j, below, hopen, hdepth⟩ := h.exists_openHeaders hm rfl
    refine h.headers.tail.push h.length rfl ?_
    show w.depth - 1 = _
    rw [hopen, List.tail_cons]
    omega

/-- One more line keeps the discipline. -/
theorem write (h : Tracked ms w) (hm : m.Fits w.scopes) : Tracked (ms ++ [m]) (w.write m) := by
  have htake : ∀ i, i ≤ ms.length → (ms ++ [m]).take i = ms.take i :=
    fun i hi => List.take_append_of_le_length hi
  refine ⟨⟨?_, h.depth_write m, h.count_write hm, ?_, ?_, ?_⟩, h.headers_write hm⟩
  · simp [Writer.write, h.texts]
  · refine forall_getElem?_concat h.length (fun i m' l hi hl hcloses hne => ?_)
      fun hcloses hne => ?_
    · rw [htake i (Nat.le_of_lt (List.getElem?_eq_some_iff.1 hi).1)]
      exact h.outward i m' l hi hl hcloses hne
    · rw [htake _ (Nat.le_refl _), List.take_length, ← h.depth]
      cases m with
      | plain | header => rfl
      | blank => exact absurd rfl hne
      | otherwise | closing => cases hcloses
  · refine forall_getElem?_concat h.length (fun i m' l hi hl hcloses => ?_) fun hcloses => ?_
    · obtain ⟨j, opened, header, hj, hopened, hopens, hheader, hdepth⟩ :=
        h.inward i m' l hi hl hcloses
      refine ⟨j, opened, header, ?_, ?_, hopens, ?_, hdepth⟩
      · rw [htake i (Nat.le_of_lt (List.getElem?_eq_some_iff.1 hi).1), hj]
      · rw [List.getElem?_append_left (List.getElem?_eq_some_iff.1 hopened).1, hopened]
      · exact (List.getElem?_append_left (List.getElem?_eq_some_iff.1 hheader).1).trans hheader
    · obtain ⟨j, below, hopen, hdepth⟩ := h.exists_openHeaders hm hcloses
      have hheaders := h.headers
      rw [hopen] at hheaders
      obtain ⟨⟨opened, header, hopened, hopens, hheader, hbelow⟩, -⟩ := hheaders
      refine ⟨j, opened, header, ?_, ?_, hopens, ?_, ?_⟩
      · rw [htake _ (Nat.le_refl _), List.take_length, hopen]
        rfl
      · rw [List.getElem?_append_left (List.getElem?_eq_some_iff.1 hopened).1, hopened]
      · exact (List.getElem?_append_left (List.getElem?_eq_some_iff.1 hheader).1).trans hheader
      · cases m with
        | plain | blank | header => cases hcloses
        | otherwise | closing =>
          show w.depth - 1 = _
          omega
  · rw [Writer.text_fails_iff, h.depth_write m, Ne, List.length_eq_zero_iff]

end Tracked

/-- The marks of all lines of a writer that was new keep its discipline. -/
theorem Writes.disciplined {indent : String} {ms : List Mark} {w : Writer}
    (h : Writes { indent := indent } ms w) : Disciplined ms w := by
  have hnew : Tracked [] { indent := indent } :=
    ⟨⟨rfl, rfl, rfl, by simp, by simp, by simp [Writer.text_fails_iff, Writer.depth, openHeaders]⟩,
      trivial⟩
  have htracked : Tracked ms w := by
    induction h with
    | nil => exact hnew
    | concat _ hm ih => exact ih.write hm
  exact htracked.toDisciplined

end Protogen.Code
