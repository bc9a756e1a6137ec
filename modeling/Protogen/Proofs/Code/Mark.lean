import Protogen.Proofs.Code.Emits

/-!
# What lines of code are written for

A `Mark` tells what one line was written for: it is plain or empty, it is a header, it turns a
condition into its alternative, or it closes a header.

* `Writer.write` writes the line of a mark, and opens and closes scopes as the mark tells.
* `Writes w ms v`: the lines of the marks, one after the other, turn the writer `w` into `v`, and
  each of them fits the scopes that are open at its turn.
* `Writer.continuedBy` puts the lines and scopes of one writer behind those of another one, as
  appending does (`Writer.append_eq_continuedBy`). `Writes.continued` are the marks of these lines,
  and `Writes.sameCode` compares them with the same lines written in place.
-/

set_option autoImplicit false

namespace Protogen.Code

/-- What a line is written for. -/
inductive Mark
  | plain (text : String)
  | blank
  /-- the first line of a scope, given without its brace -/
  | header (text kind : String)
  /-- closes a condition and is the header of its alternative -/
  | otherwise
  | closing (suffix : String)
  deriving DecidableEq, Repr

namespace Mark

/-- The line itself. -/
def text : Mark → String
  | plain text => text
  | blank => ""
  | header text _ => text ++ " \x7b"
  | otherwise => "\x7d else \x7b"
  | closing suffix => "\x7d" ++ suffix

/-- Whether the line is a header. -/
def opens : Mark → Bool
  | header _ _ => true
  | otherwise => true
  | _ => false

/-- Whether the line closes a header. -/
def closes : Mark → Bool
  | otherwise => true
  | closing _ => true
  | _ => false

/-- The depth of the line, if there are so many open scopes before it. -/
def depth (level : Nat) : Mark → Nat
  | plain _ => level
  | blank => 0
  | header _ _ => level
  | otherwise => level - 1
  | closing _ => level - 1

/-- The scopes that are open behind the line. -/
def scopes (before : List String) : Mark → List String
  | plain _ => before
  | blank => before
  | header _ kind => kind :: before
  | otherwise => "else" :: before.tail
  | closing _ => before.tail

/-- Whether the line fits the scopes that are open before it. -/
def Fits (before : List String) : Mark → Prop
  | otherwise => before.head? = some "if"
  | closing _ => before ≠ []
  | _ => True

/-- The places of the open headers behind a line at a place, innermost first: a line that closes a
header closes the innermost one. -/
def track (place : Nat) (before : List Nat) : Mark → List Nat
  | plain _ => before
  | blank => before
  | header _ _ => place :: before
  | otherwise => place :: before.tail
  | closing _ => before.tail

/-- The mark of a line that is appended from another writer: empty lines stay at the margin. -/
def spliced : Mark → Mark
  | plain text => if text = "" then blank else plain text
  | m => m

theorem scopes_ne_nil_of_closes {m : Mark} {before : List String} (h : m.Fits before)
    (hcloses : m.closes = true) : before ≠ [] := by
  cases m with
  | otherwise =>
    rintro rfl
    cases h
  | closing suffix => exact h
  | plain | blank | header => cases hcloses

@[simp] theorem text_spliced (m : Mark) : m.spliced.text = m.text := by
  cases m with
  | plain text => by_cases h : text = "" <;> simp [spliced, Mark.text, h]
  | blank | header | otherwise | closing => rfl

@[simp] theorem scopes_spliced (m : Mark) (before : List String) :
    m.spliced.scopes before = m.scopes before := by
  cases m with
  | plain text => by_cases h : text = "" <;> simp [spliced, scopes, h]
  | blank | header | otherwise | closing => rfl

theorem depth_spliced {m : Mark} (h : m.text ≠ "") (level : Nat) :
    m.spliced.depth level = m.depth level := by
  cases m with
  | plain text =>
    have hne : text ≠ "" := h
    rw [spliced, if_neg hne]
  | blank | header | otherwise | closing => rfl

/-- A line that fits leaves the scopes below as they are. -/
theorem scopes_append {m : Mark} {before : List String} (h : m.closes = true → before ≠ [])
    (below : List String) : m.scopes (before ++ below) = m.scopes before ++ below := by
  cases m with
  | plain | blank | header => rfl
  | otherwise => rw [scopes, scopes, List.tail_append_of_ne_nil (h rfl), List.cons_append]
  | closing suffix => rw [scopes, scopes, List.tail_append_of_ne_nil (h rfl)]

/-- A line is moved by as many scopes as there are more. -/
theorem shift_line (m : Mark) {level : Nat} (h : m.closes = true → 0 < level) (n : Nat) :
    Writer.shift n ⟨m.depth level, m.text⟩ = ⟨m.spliced.depth (level + n), m.text⟩ := by
  by_cases hempty : m.text = ""
  · have hblank : m.spliced.depth (level + n) = 0 := by
      cases m with
      | plain text =>
        have hnil : text = "" := hempty
        rw [spliced, if_pos hnil, depth]
      | blank => rfl
      | header | otherwise | closing => simp [text] at hempty
    rw [hblank, hempty]
    rfl
  · rw [Writer.shift_of_ne _ _ hempty, depth_spliced hempty]
    have hdepth : n + m.depth level = m.depth (level + n) := by
      cases m with
      | plain | header => exact Nat.add_comm ..
      | blank => exact absurd rfl hempty
      | otherwise | closing =>
        have hlevel := h rfl
        simp only [depth]
        omega
    rw [hdepth]

end Mark

namespace Writer

/-- Writes the line of a mark. -/
def write (w : Writer) (m : Mark) : Writer :=
  { w with lines := w.lines ++ [⟨m.depth w.depth, m.text⟩], scopes := m.scopes w.scopes }

theorem enterBlock_eq_write (header kind : String) (w : Writer) :
    w.enterBlock header kind = w.write (.header header kind) := rfl

theorem close_eq_write (suffix : String) (w : Writer) :
    w.close suffix = w.write (.closing suffix) := by
  simp [close, write, pop, line, depth, Mark.depth, Mark.text, Mark.scopes]

theorem enterElse_eq_ok {w v : Writer} :
    w.enterElse = .ok v ↔ Mark.otherwise.Fits w.scopes ∧ v = w.write .otherwise := by
  have hwrite : (w.pop.line "\x7d else \x7b").push "else" = w.write .otherwise := by
    simp [write, push, pop, line, depth, Mark.depth, Mark.text, Mark.scopes]
  rw [enterElse, hwrite, ite_eq_ok]
  rfl

theorem exitBlock_eq_ok {suffix : String} {w v : Writer} :
    w.exitBlock suffix = .ok v ↔ (Mark.closing suffix).Fits w.scopes ∧
      v = w.write (.closing suffix) := by
  rw [exitBlock, close_eq_write, ← ite_not, ite_eq_ok, List.isEmpty_iff]
  rfl

theorem exitMethod_eq_ok {w v : Writer} :
    w.exitMethod = .ok v ↔ w.scopes.head? = some "method" ∧ v = w.write (.closing ";") := by
  rw [exitMethod, close_eq_write, ite_eq_ok]

theorem append_eq_ok {w other v : Writer} :
    w.append other = .ok v ↔ other.scopes = [] ∧
      v = { w with lines := w.lines ++ other.lines.map (shift w.depth) } := by
  rw [append, ite_eq_ok, List.isEmpty_iff]

end Writer

/-- Marks are written one after the other, each where it fits. -/
inductive Writes (w : Writer) : List Mark → Writer → Prop
  | nil : Writes w [] w
  | concat {ms : List Mark} {v : Writer} {m : Mark} (h : Writes w ms v) (hm : m.Fits v.scopes) :
    Writes w (ms ++ [m]) (v.write m)

namespace Writes

variable {w v u : Writer} {ms ms' : List Mark} {m : Mark}

theorem single (hm : m.Fits w.scopes) : Writes w [m] (w.write m) := nil.concat hm

theorem trans (h : Writes w ms v) (h' : Writes v ms' u) : Writes w (ms ++ ms') u := by
  induction h' with
  | nil => rwa [List.append_nil]
  | concat _ hm ih =>
    rw [← List.append_assoc]
    exact ih.concat hm

theorem cons (hm : m.Fits w.scopes) (h : Writes (w.write m) ms v) : Writes w (m :: ms) v :=
  (single hm).trans h

theorem of_nil (h : Writes w [] v) : v = w := by
  generalize hlist : ([] : List Mark) = list at h
  cases h with
  | nil => rfl
  | concat h hm => simp at hlist

theorem of_concat (h : Writes w (ms ++ [m]) v) :
    ∃ u, Writes w ms u ∧ m.Fits u.scopes ∧ v = u.write m := by
  generalize hlist : ms ++ [m] = list at h
  cases h with
  | nil => simp at hlist
  | concat h hm =>
    obtain ⟨rfl, hlast⟩ := List.append_inj' hlist rfl
    cases hlast
    exact ⟨_, h, hm, rfl⟩

theorem indent (h : Writes w ms v) : v.indent = w.indent := by
  induction h with
  | nil => rfl
  | concat _ _ ih => exact ih

end Writes

/-! ## Lines of another writer -/

namespace Writer

/-- The writer with the lines and the scopes of another one behind its own. -/
def continuedBy (outer inner : Writer) : Writer :=
  { outer with
    lines := outer.lines ++ inner.lines.map (shift outer.depth)
    scopes := inner.scopes ++ outer.scopes }

theorem append_eq_continuedBy {w other v : Writer} (h : w.append other = .ok v) :
    v = w.continuedBy other := by
  obtain ⟨hscopes, rfl⟩ := append_eq_ok.1 h
  simp [continuedBy, hscopes]

/-- A line of the inner writer is a line behind both. -/
theorem continuedBy_write (outer : Writer) {inner : Writer} {m : Mark} (hm : m.Fits inner.scopes) :
    outer.continuedBy (inner.write m) = (outer.continuedBy inner).write m.spliced := by
  have hne := Mark.scopes_ne_nil_of_closes hm
  have hdepth : (outer.continuedBy inner).depth = inner.depth + outer.depth :=
    List.length_append
  have hline : shift outer.depth ⟨m.depth inner.depth, m.text⟩ =
      ⟨m.spliced.depth (outer.continuedBy inner).depth, m.spliced.text⟩ := by
    rw [hdepth, Mark.text_spliced]
    exact m.shift_line (fun hcloses => List.length_pos_iff.2 (hne hcloses)) _
  have hscopes : m.scopes inner.scopes ++ outer.scopes =
      m.spliced.scopes (inner.scopes ++ outer.scopes) := by
    rw [Mark.scopes_spliced, Mark.scopes_append hne]
  rw [write, write, hline.symm]
  simp only [continuedBy, hscopes, List.map_append, List.map_singleton, List.append_assoc]

end Writer

/-- What fits the scopes of an inner writer fits those of both. -/
theorem Mark.Fits.append {m : Mark} {inner : List String} (h : m.Fits inner) (outer : List String) :
    m.spliced.Fits (inner ++ outer) := by
  cases m with
  | plain text => by_cases hempty : text = "" <;> simp [Mark.spliced, Mark.Fits, hempty]
  | blank | header => trivial
  | otherwise =>
    obtain ⟨rest, rfl⟩ := List.head?_eq_some_iff.1 h
    rfl
  | closing suffix =>
    intro hnil
    exact h (List.append_eq_nil_iff.1 hnil).1

namespace Writes

variable {inner : Writer} {ms : List Mark}

/-- The lines of a writer that was new, behind those of another one. -/
theorem continued {indent : String} (h : Writes { indent := indent } ms inner) (outer : Writer) :
    Writes outer (ms.map Mark.spliced) (outer.continuedBy inner) := by
  induction h with
  | nil =>
    have hnew : outer.continuedBy { indent := indent } = outer := by simp [Writer.continuedBy]
    rw [hnew]
    exact .nil
  | concat _ hm ih =>
    rw [List.map_append, List.map_singleton, Writer.continuedBy_write outer hm]
    exact ih.concat (hm.append outer.scopes)

/-- Lines look the same whether they are written in place or appended. -/
theorem sameCode {u u' v v' : Writer} (h : Writes u ms v) (h' : Writes u' (ms.map Mark.spliced) v')
    (hscopes : u'.scopes = u.scopes) (hindent : u'.indent = u.indent)
    (hrendered : u'.rendered = u.rendered) :
    v'.scopes = v.scopes ∧ v'.rendered = v.rendered := by
  induction h generalizing v' with
  | nil =>
    obtain rfl := h'.of_nil
    exact ⟨hscopes, hrendered⟩
  | @concat ms v m h hm ih =>
    rw [List.map_append, List.map_singleton] at h'
    obtain ⟨w', hw', -, rfl⟩ := h'.of_concat
    obtain ⟨hsame, hlines⟩ := ih hw'
    refine ⟨?_, ?_⟩
    · show m.spliced.scopes w'.scopes = m.scopes v.scopes
      rw [hsame, Mark.scopes_spliced]
    · have hline : Writer.indented w'.indent ⟨m.spliced.depth w'.depth, m.spliced.text⟩ =
          Writer.indented v.indent ⟨m.depth v.depth, m.text⟩ := by
        rw [hw'.indent, h.indent, hindent, Mark.text_spliced, Writer.depth, Writer.depth, hsame]
        by_cases hempty : m.text = ""
        · simp [Writer.indented, hempty]
        · rw [Mark.depth_spliced hempty]
      simp only [Writer.rendered] at hlines ⊢
      simp only [Writer.write, List.map_append, List.map_singleton]
      rw [hlines, hline]

end Writes

end Protogen.Code
