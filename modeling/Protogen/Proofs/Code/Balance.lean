import Protogen.Proofs.Code.Emits

/-!
# Balanced code

`Balanced Plain Header depth ls` says that the lines `ls` are whole blocks at a depth: every line
that opens a block is followed by lines one level deeper and by a closing line at its own depth.
`Plain` is what holds of the lines that open no block, `Header` of the text before an opening
brace.

* `Balanced.existsUnique_closesAt`: a line that opens a block has exactly one closing line.
* `Balances Plain Header e` says that the emission `e` writes balanced lines, leaves the open scopes
  as they are, and fails with no fault of scopes. It composes along `>>=` and through blocks.
* `Balances.run` says what becomes of any writer, whatever the outcome.
* `Balances.ifElse` follows a condition with an alternative, `Balances.append` the lines of another
  writer, `Balances.written` the writer of a whole emission.
-/

set_option autoImplicit false

namespace Protogen.Code

/-! ## Balanced lines -/

/-- What stands behind the brace of a closing line. -/
def closingSuffixes : List String := ["", ";", ");"]

/-- Lines that are whole blocks at a depth. -/
inductive Balanced (Plain Header : String → Prop) : Nat → List Line → Prop
  | nil (depth : Nat) : Balanced Plain Header depth []
  | plain {text : String} (depth : Nat) (htext : Plain text) :
      Balanced Plain Header depth [⟨depth, text⟩]
  | blank (depth : Nat) : Balanced Plain Header depth [⟨0, ""⟩]
  | block {depth : Nat} {header suffix : String} {body : List Line} (hheader : Header header)
      (hsuffix : suffix ∈ closingSuffixes) (hbody : Balanced Plain Header (depth + 1) body) :
      Balanced Plain Header depth
        (⟨depth, header ++ " \x7b"⟩ :: (body ++ [⟨depth, "\x7d" ++ suffix⟩]))
  | choice {depth : Nat} {header suffix : String} {first second : List Line}
      (hheader : Header header) (hsuffix : suffix ∈ closingSuffixes)
      (hfirst : Balanced Plain Header (depth + 1) first)
      (hsecond : Balanced Plain Header (depth + 1) second) :
      Balanced Plain Header depth (⟨depth, header ++ " \x7b"⟩ ::
        (first ++ ⟨depth, "\x7d else \x7b"⟩ :: (second ++ [⟨depth, "\x7d" ++ suffix⟩])))
  | append {depth : Nat} {ls ls' : List Line} (h : Balanced Plain Header depth ls)
      (h' : Balanced Plain Header depth ls') : Balanced Plain Header depth (ls ++ ls')

/-- Whether a text opens a block. -/
def opensBlock (text : String) : Prop := " \x7b".toList <:+ text.toList

/-- Whether a text closes a block. -/
def closesBlock (text : String) : Prop :=
  text = "\x7d else \x7b" ∨ ∃ suffix ∈ closingSuffixes, text = "\x7d" ++ suffix

theorem head?_of_closesBlock {text : String} (h : closesBlock text) :
    text.toList.head? = some '\x7d' := by
  rcases h with rfl | ⟨suffix, -, rfl⟩
  · rfl
  · simp

/-- The line some places behind an opening line closes it: it is a closing line at the same depth,
and the lines between are deeper. -/
structure ClosesAt (opening : Line) (after : List Line) (n : Nat) : Prop where
  closing : ∃ line, after[n]? = some line ∧ line.depth = opening.depth ∧ closesBlock line.text
  inner : ∀ line ∈ after.take n, line.text = "" ∨ opening.depth < line.depth

/-- A block has at most one closing line. -/
theorem ClosesAt.unique {opening : Line} {after : List Line} {m n : Nat}
    (hm : ClosesAt opening after m) (hn : ClosesAt opening after n) : m = n := by
  -- the nearer of two closing lines would lie inside the block of the other
  have hnot : ∀ {m n : Nat}, ClosesAt opening after m → ClosesAt opening after n → ¬m < n := by
    intro m n hm hn hlt
    obtain ⟨line, hline, hdepth, htext⟩ := hm.closing
    have hmem : line ∈ after.take n := by
      refine List.mem_of_getElem? (i := m) ?_
      rw [List.getElem?_take_of_lt hlt, hline]
    rcases hn.inner line hmem with hempty | hdeeper
    · rw [hempty] at htext
      cases head?_of_closesBlock htext
    · omega
  have h := hnot hm hn
  have h' := hnot hn hm
  omega

/-- More lines behind a block do not matter. -/
theorem ClosesAt.append {opening : Line} {after : List Line} {n : Nat}
    (h : ClosesAt opening after n) (more : List Line) : ClosesAt opening (after ++ more) n := by
  obtain ⟨line, hline, hclosing⟩ := h.closing
  have hn : n < after.length := (List.getElem?_eq_some_iff.1 hline).1
  refine ⟨⟨line, ?_, hclosing⟩, ?_⟩
  · rw [List.getElem?_append_left hn, hline]
  · rw [List.take_append_of_le_length (Nat.le_of_lt hn)]
    exact h.inner

/-- A closing line behind deeper lines. -/
theorem closesAt_length {opening : Line} {body rest : List Line} {text : String}
    (hbody : ∀ line ∈ body, line.text = "" ∨ opening.depth < line.depth)
    (htext : closesBlock text) :
    ClosesAt opening (body ++ ⟨opening.depth, text⟩ :: rest) body.length := by
  refine ⟨⟨⟨opening.depth, text⟩, ?_, rfl, htext⟩, ?_⟩
  · simp
  · simpa using hbody

namespace Balanced

variable {Plain Header : String → Prop} {depth : Nat} {ls : List Line}

/-- What a line of some blocks may be. -/
inductive IsPart (Plain Header : String → Prop) (depth : Nat) : Line → Prop
  | blank : IsPart Plain Header depth ⟨0, ""⟩
  | plain {d : Nat} {text : String} (hdepth : depth ≤ d) (htext : Plain text) :
      IsPart Plain Header depth ⟨d, text⟩
  | opening {d : Nat} {header : String} (hdepth : depth ≤ d) (hheader : Header header) :
      IsPart Plain Header depth ⟨d, header ++ " \x7b"⟩
  | otherwise {d : Nat} (hdepth : depth ≤ d) : IsPart Plain Header depth ⟨d, "\x7d else \x7b"⟩
  | closing {d : Nat} {suffix : String} (hdepth : depth ≤ d) (hsuffix : suffix ∈ closingSuffixes) :
      IsPart Plain Header depth ⟨d, "\x7d" ++ suffix⟩

theorem IsPart.outer {line : Line} (h : IsPart Plain Header (depth + 1) line) :
    IsPart Plain Header depth line := by
  cases h with
  | blank => exact .blank
  | plain hdepth htext => exact .plain (Nat.le_of_succ_le hdepth) htext
  | opening hdepth hheader => exact .opening (Nat.le_of_succ_le hdepth) hheader
  | otherwise hdepth => exact .otherwise (Nat.le_of_succ_le hdepth)
  | closing hdepth hsuffix => exact .closing (Nat.le_of_succ_le hdepth) hsuffix

theorem isPart (h : Balanced Plain Header depth ls) : ∀ line ∈ ls, IsPart Plain Header depth line := by
  induction h with
  | nil => simp
  | plain depth htext => simpa using .plain (Nat.le_refl _) htext
  | blank => simpa using .blank
  | block hheader hsuffix _ ih =>
    intro line hline
    simp only [List.mem_cons, List.mem_append, List.not_mem_nil, or_false] at hline
    rcases hline with rfl | hline | rfl
    · exact .opening (Nat.le_refl _) hheader
    · exact (ih line hline).outer
    · exact .closing (Nat.le_refl _) hsuffix
  | choice hheader hsuffix _ _ ih ih' =>
    intro line hline
    simp only [List.mem_cons, List.mem_append, List.not_mem_nil, or_false] at hline
    rcases hline with rfl | hline | rfl | hline | rfl
    · exact .opening (Nat.le_refl _) hheader
    · exact (ih line hline).outer
    · exact .otherwise (Nat.le_refl _)
    · exact (ih' line hline).outer
    · exact .closing (Nat.le_refl _) hsuffix
  | append _ _ ih ih' =>
    intro line hline
    rcases List.mem_append.1 hline with hline | hline
    · exact ih line hline
    · exact ih' line hline

/-- The lines inside a block are deeper than its header. -/
theorem deeper (h : Balanced Plain Header (depth + 1) ls) :
    ∀ line ∈ ls, line.text = "" ∨ depth < line.depth := by
  intro line hline
  cases h.isPart line hline with
  | blank => exact .inl rfl
  | plain hdepth => exact .inr hdepth
  | opening hdepth => exact .inr hdepth
  | otherwise hdepth => exact .inr hdepth
  | closing hdepth => exact .inr hdepth

/-- Weaker conditions on the lines. -/
theorem mono {Plain' Header' : String → Prop} (h : Balanced Plain Header depth ls)
    (hplain : ∀ text, Plain text → Plain' text) (hheader : ∀ text, Header text → Header' text) :
    Balanced Plain' Header' depth ls := by
  induction h with
  | nil depth => exact .nil depth
  | plain depth htext => exact .plain depth (hplain _ htext)
  | blank depth => exact .blank depth
  | block htext hsuffix _ ih => exact .block (hheader _ htext) hsuffix ih
  | choice htext hsuffix _ _ ih ih' => exact .choice (hheader _ htext) hsuffix ih ih'
  | append _ _ ih ih' => exact .append ih ih'

/-- Blocks at a deeper place. -/
theorem shift (h : Balanced Plain Header depth ls) (n : Nat) :
    Balanced Plain Header (n + depth) (ls.map (Writer.shift n)) := by
  have hclosing : ∀ depth suffix, Writer.shift n ⟨depth, "\x7d" ++ suffix⟩ =
      ⟨n + depth, "\x7d" ++ suffix⟩ := fun depth suffix => Writer.shift_of_ne n depth (by simp)
  have hopening : ∀ depth header, Writer.shift n ⟨depth, header ++ " \x7b"⟩ =
      ⟨n + depth, header ++ " \x7b"⟩ := fun depth header => Writer.shift_of_ne n depth (by simp)
  have helse : ∀ depth, Writer.shift n ⟨depth, "\x7d else \x7b"⟩ =
      ⟨n + depth, "\x7d else \x7b"⟩ := fun depth => Writer.shift_of_ne n depth (by simp)
  induction h with
  | nil depth => exact .nil _
  | @plain text depth htext =>
    by_cases hempty : text = ""
    · subst hempty
      exact .blank _
    · rw [List.map_cons, Writer.shift_of_ne n depth hempty]
      exact .plain _ htext
  | blank depth => exact .blank _
  | block htext hsuffix _ ih =>
    simp only [List.map_cons, List.map_append, List.map_nil, hopening, hclosing]
    exact .block htext hsuffix ih
  | choice htext hsuffix _ _ ih ih' =>
    simp only [List.map_cons, List.map_append, List.map_nil, hopening, hclosing, helse]
    exact .choice htext hsuffix ih ih'
  | append _ _ ih ih' =>
    rw [List.map_append]
    exact .append ih ih'

theorem not_opensBlock_closing {suffix : String} (h : suffix ∈ closingSuffixes) :
    ¬opensBlock ("\x7d" ++ suffix) := by
  unfold opensBlock
  revert suffix
  decide

/-- A suffix that begins inside a list of lines ends with what is behind them. -/
theorem suffix_append_cases {opening : Line} {after first second : List Line}
    (h : opening :: after <:+ first ++ second) :
    opening :: after <:+ second ∨
      ∃ rest, after = rest ++ second ∧ opening :: rest <:+ first := by
  obtain ⟨before, hbefore⟩ := h
  rcases List.append_eq_append_iff.1 hbefore with ⟨middle, hfirst, htail⟩ | ⟨middle, -, hsecond⟩
  · rcases middle with - | ⟨line, rest⟩
    · exact .inl ⟨[], htail⟩
    · cases htail
      exact .inr ⟨rest, rfl, before, hfirst.symm⟩
  · exact .inl ⟨middle, hsecond.symm⟩

/-- A line that opens a block has a closing line. -/
theorem exists_closesAt (h : Balanced Plain Header depth ls)
    (hplain : ∀ text, Plain text → ¬opensBlock text) {opening : Line} {after : List Line}
    (hsuffix : opening :: after <:+ ls) (hopens : opensBlock opening.text) :
    ∃ n, ClosesAt opening after n := by
  -- a closing line opens no block
  have hclosing : ∀ {d : Nat} {suffix : String} {tail : List Line}, suffix ∈ closingSuffixes →
      ¬opening :: tail <:+ [⟨d, "\x7d" ++ suffix⟩] := by
    intro d suffix tail hmem h
    obtain rfl : opening = _ := List.mem_singleton.1 (h.subset (List.mem_cons_self ..))
    exact not_opensBlock_closing hmem hopens
  induction h generalizing after with
  | nil => simp at hsuffix
  | plain depth htext =>
    obtain rfl : opening = _ := List.mem_singleton.1 (hsuffix.subset (List.mem_cons_self ..))
    exact absurd hopens (hplain _ htext)
  | blank =>
    obtain rfl : opening = _ := List.mem_singleton.1 (hsuffix.subset (List.mem_cons_self ..))
    exact absurd hopens (by unfold opensBlock; decide)
  | @block depth header suffix body _ hmem hbody ih =>
    rcases List.suffix_cons_iff.1 hsuffix with heq | hsuffix
    · cases heq
      exact ⟨body.length, closesAt_length hbody.deeper (.inr ⟨suffix, hmem, rfl⟩)⟩
    · rcases suffix_append_cases hsuffix with hlast | ⟨rest, rfl, hinner⟩
      · exact absurd hlast (hclosing hmem)
      · obtain ⟨n, hn⟩ := ih hinner
        exact ⟨n, hn.append _⟩
  | @choice depth header suffix first second _ hmem hfirst hsecond ih ih' =>
    rcases List.suffix_cons_iff.1 hsuffix with heq | hsuffix
    · cases heq
      exact ⟨first.length, closesAt_length hfirst.deeper (.inl rfl)⟩
    · rcases suffix_append_cases hsuffix with hsuffix | ⟨rest, rfl, hinner⟩
      · rcases List.suffix_cons_iff.1 hsuffix with heq | hsuffix
        · cases heq
          exact ⟨second.length, closesAt_length hsecond.deeper (.inr ⟨suffix, hmem, rfl⟩)⟩
        · rcases suffix_append_cases hsuffix with hlast | ⟨rest, rfl, hinner⟩
          · exact absurd hlast (hclosing hmem)
          · obtain ⟨n, hn⟩ := ih' hinner
            exact ⟨n, hn.append _⟩
      · obtain ⟨n, hn⟩ := ih hinner
        exact ⟨n, hn.append _⟩
  | append _ _ ih ih' =>
    rcases suffix_append_cases hsuffix with hlast | ⟨rest, rfl, hinner⟩
    · exact ih' hlast
    · obtain ⟨n, hn⟩ := ih hinner
      exact ⟨n, hn.append _⟩

/-- A line that opens a block has exactly one closing line. -/
theorem existsUnique_closesAt (h : Balanced Plain Header depth ls)
    (hplain : ∀ text, Plain text → ¬opensBlock text) {opening : Line} {after : List Line}
    (hsuffix : opening :: after <:+ ls) (hopens : opensBlock opening.text) :
    ∃! n, ClosesAt opening after n := by
  obtain ⟨n, hn⟩ := h.exists_closesAt hplain hsuffix hopens
  exact ⟨n, hn, fun m hm => hm.unique hn⟩

end Balanced

/-! ## Emissions that write balanced lines -/

variable {α β : Type} {Plain Header : String → Prop}

/-- A computation that fails, if it does, with no fault of scopes. -/
def NoScopeFault (r : Except Failure α) : Prop := ∀ fault, r ≠ .error (.scope fault)

namespace NoScopeFault

theorem ok (a : α) : NoScopeFault (.ok a) := by
  rintro fault ⟨⟩

theorem failing {ε : Type} {cause : ε → Failure} (hcause : ∀ e fault, cause e ≠ .scope fault)
    (r : Except ε α) : NoScopeFault (failing cause r) := by
  intro fault h
  obtain ⟨e, -, heq⟩ := failing_eq_error.1 h
  exact hcause e fault heq

theorem bind {r : Except Failure α} {k : α → Except Failure β} (hr : NoScopeFault r)
    (hk : ∀ a, NoScopeFault (k a)) : NoScopeFault (r >>= k) := by
  intro fault h
  rcases bind_eq_error.1 h with h | ⟨a, -, h⟩
  · exact hr fault h
  · exact hk a fault h

end NoScopeFault

/-- The emission writes balanced lines, the same ones on every writer, leaves the open scopes as
they are, and fails with no fault of scopes. -/
def Balances (Plain Header : String → Prop) (e : Emission α) : Prop :=
  ∃ r ls, Emits e r ls ∧ Balanced Plain Header 0 ls ∧ NoScopeFault r

namespace Balances

variable {e : Emission α}

/-- What becomes of a writer, whatever the outcome. -/
theorem run (h : Balances Plain Header e) (w : Writer) :
    (∃ ls, (e.run w).2 = { w with lines := w.lines ++ ls } ∧ Balanced Plain Header w.depth ls) ∧
      NoScopeFault (e.run w).1 := by
  obtain ⟨r, ls, hemits, hbalanced, hfault⟩ := h
  rw [hemits w]
  exact ⟨⟨_, rfl, hbalanced.shift w.depth⟩, hfault⟩

/-- Weaker conditions on the lines. -/
theorem mono {Plain' Header' : String → Prop} (h : Balances Plain Header e)
    (hplain : ∀ text, Plain text → Plain' text) (hheader : ∀ text, Header text → Header' text) :
    Balances Plain' Header' e := by
  obtain ⟨r, ls, hemits, hbalanced, hfault⟩ := h
  exact ⟨r, ls, hemits, hbalanced.mono hplain hheader, hfault⟩

theorem pure (a : α) : Balances Plain Header (Pure.pure a : Emission α) :=
  ⟨_, _, .pure a, .nil 0, .ok a⟩

theorem demand {r : Except Failure α} (hr : NoScopeFault r) :
    Balances Plain Header (Emission.demand r) := ⟨_, _, .demand r, .nil 0, hr⟩

theorem line {text : String} (hne : text ≠ "") (h : Plain text) :
    Balances Plain Header (Emission.line text) :=
  ⟨_, _, .line hne, .plain 0 h, .ok ()⟩

theorem blank : Balances Plain Header Emission.blank :=
  ⟨_, _, .blank, .blank 0, .ok ()⟩

/-- What follows an emission is only run on what the emission returns. -/
theorem bind {k : α → Emission β} (h : Balances Plain Header e)
    (hk : ∀ a ls, Emits e (.ok a) ls → Balances Plain Header (k a)) :
    Balances Plain Header (e >>= k) := by
  obtain ⟨r, ls, hemits, hbalanced, hfault⟩ := h
  cases r with
  | error failure =>
    refine ⟨_, _, hemits.bind_error, hbalanced, ?_⟩
    rintro fault ⟨⟩
    exact hfault fault rfl
  | ok a =>
    obtain ⟨r', ls', hemits', hbalanced', hfault'⟩ := hk a ls hemits
    exact ⟨_, _, hemits.bind hemits', hbalanced.append hbalanced', hfault'⟩

theorem bind_demand {r : Except Failure α} {k : α → Emission β}
    (hr : NoScopeFault r) (hk : ∀ a, r = .ok a → Balances Plain Header (k a)) :
    Balances Plain Header (Emission.demand r >>= k) := by
  refine (demand hr).bind fun a ls h => hk a ?_
  exact (h.result_unique (.demand r)).1.symm

theorem forM {items : List β} {k : β → Emission Unit}
    (h : ∀ item ∈ items, Balances Plain Header (k item)) :
    Balances Plain Header (items.forM k) := by
  induction items with
  | nil => exact pure ()
  | cons item items ih =>
    have hrest := ih fun i hi => h i (List.mem_cons_of_mem _ hi)
    exact (h item (List.mem_cons_self ..)).bind fun _ _ _ => hrest

theorem lines {texts : List String} (h : ∀ text ∈ texts, text ≠ "" ∧ Plain text) :
    Balances Plain Header (Emission.lines texts) :=
  forM fun text htext => line (h text htext).1 (h text htext).2

/-- A block around an emission. -/
theorem within {header kind suffix : String} {body : Emission Unit}
    (hheader : Header header) (hsuffix : suffix ∈ closingSuffixes)
    (h : Balances Plain Header body) :
    Balances Plain Header (Emission.within (·.enterBlock header kind) suffix body) := by
  obtain ⟨r, ls, hemits, hbalanced, hfault⟩ := h
  exact ⟨r, _, hemits.within, .block hheader hsuffix (hbalanced.shift 1), hfault⟩

theorem block {header suffix : String} {body : Emission Unit} (hheader : Header header)
    (hsuffix : suffix ∈ closingSuffixes) (h : Balances Plain Header body) :
    Balances Plain Header (Emission.block header suffix body) := within hheader hsuffix h

theorem ifBlock {condition : String} {body : Emission Unit}
    (hheader : Header ("if (" ++ condition ++ ")")) (h : Balances Plain Header body) :
    Balances Plain Header (Emission.ifBlock condition body) := within hheader (by decide) h

theorem method {name argument : String} {body : Emission Unit}
    (hheader : Header (name ++ " = function(" ++ argument ++ ")"))
    (h : Balances Plain Header body) :
    Balances Plain Header (Emission.method name argument body) := within hheader (by decide) h

/-- A condition whose code is one line, with an alternative. -/
theorem ifElse {condition text : String} {body : Emission Unit}
    (hheader : Header ("if (" ++ condition ++ ")")) (hne : text ≠ "") (htext : Plain text)
    (h : Balances Plain Header body) :
    Balances Plain Header
      (Emission.ifBlock condition (do Emission.line text; Emission.enterElse; body)) := by
  obtain ⟨r, ls, hemits, hbalanced, hfault⟩ := h
  have hsuffix : "" ∈ closingSuffixes := by decide
  exact ⟨r, _, hemits.ifElse hne,
    .choice hheader hsuffix (.plain 1 htext) (hbalanced.shift 1), hfault⟩

/-- The lines of another writer. -/
theorem append {other : Writer} (hscopes : other.scopes = [])
    (h : Balanced Plain Header 0 other.lines) :
    Balances Plain Header (Emission.append other) :=
  ⟨_, _, .append hscopes, h, .ok ()⟩

/-- The writer of an emission as a whole. -/
theorem written {e : Emission Unit} (h : Balances Plain Header e) {w : Writer}
    (hw : e.written = .ok w) :
    w.indent = "  " ∧ w.scopes = [] ∧ Balanced Plain Header 0 w.lines := by
  obtain ⟨r, ls, hemits, hbalanced, -⟩ := h
  cases r with
  | error failure =>
    rw [hemits.written_error] at hw
    cases hw
  | ok done =>
    rw [hemits.written] at hw
    cases hw
    exact ⟨rfl, rfl, hbalanced.shift 0⟩

theorem noScopeFault_written {e : Emission Unit} (h : Balances Plain Header e) :
    NoScopeFault e.written := by
  obtain ⟨r, ls, hemits, -, hfault⟩ := h
  cases r with
  | error failure =>
    rw [hemits.written_error]
    rintro fault ⟨⟩
    exact hfault fault rfl
  | ok done =>
    rw [hemits.written]
    exact .ok _

end Balances

end Protogen.Code
