import Mathlib.Data.List.Basic
import Protogen.Path

/-!
# Normal forms of paths

* `IsName` are the names that paths go through; `partsOf_slash` and `partsOf_intercalate` read them
  back from between slashes. `split_intercalate` does so for all pieces, also those that do not
  count, and `split_append` gives an ending to the last.
* `normalize_back` goes into directories and back.
* `settled` is the normal form of a path seen from a working directory. It does not matter whether
  the path is normalized before (`settled_normalize`), and that of a path that goes on depends only
  on that of its beginning (`settled_join`).
* `foldl_push_wayBetween` follows the way from one directory to another, `settled_relative` does so
  for paths.
-/

set_option autoImplicit false

namespace Protogen.Path

variable {name : String} {names parts stack start target workingDirectory : List String}
variable {p q : Path}

/-! ## Names -/

/-- A name between slashes that counts. -/
structure IsName (name : String) : Prop where
  noSlash : '/' ∉ name.toList
  counts : isPart name = true

theorem split_slash (before after : String) :
    Text.split '/' (before ++ "/" ++ after) = Text.split '/' before ++ Text.split '/' after := by
  have htext : (before ++ "/" ++ after).toList = before.toList ++ '/' :: after.toList := by simp
  unfold Text.split
  rw [htext, ← List.map_append]
  congr 1
  exact List.splitOnP_append_cons _ _ (by decide)

theorem parts_read (text : String) : (read text).parts = partsOf text := rfl

/-- The names before and behind a slash. -/
theorem partsOf_slash (before after : String) :
    partsOf (before ++ "/" ++ after) = partsOf before ++ partsOf after := by
  rw [partsOf, split_slash, List.filter_append]
  rfl

theorem partsOf_of_isName (h : IsName name) : partsOf name = [name] := by
  have hsplit : name.toList.splitOn '/' = [name.toList] := by
    apply List.splitOnP_eq_singleton
    intro c hc
    have hne : c ≠ '/' := fun heq => h.noSlash (heq ▸ hc)
    simpa using hne
  rw [partsOf, Text.split, hsplit]
  simp [h.counts]

/-- Names between slashes are read back. -/
theorem partsOf_intercalate (h : ∀ name ∈ names, IsName name) :
    partsOf (String.intercalate "/" names) = names := by
  induction names with
  | nil => decide
  | cons name names ih =>
    have hname := h name (List.mem_cons_self ..)
    have hrest := ih fun other hother => h other (List.mem_cons_of_mem _ hother)
    cases names with
    | nil => rw [String.intercalate_singleton, partsOf_of_isName hname]
    | cons other names =>
      rw [String.intercalate_cons_cons, partsOf_slash, partsOf_of_isName hname, hrest]
      rfl

theorem not_mem_of_mem_splitOn {c : Char} {text piece : List Char} (h : piece ∈ text.splitOn c) :
    c ∉ piece := by
  rw [List.splitOn_eq_splitOnP] at h
  induction text generalizing piece with
  | nil =>
    rw [List.splitOnP_nil, List.mem_singleton] at h
    rw [h]
    exact List.not_mem_nil
  | cons d text ih =>
    rw [List.splitOnP_cons_eq_if_modifyHead] at h
    split at h
    · rcases List.mem_cons.1 h with rfl | hrest
      · exact List.not_mem_nil
      · exact ih hrest
    · rename_i hd
      obtain ⟨first, rest, hpieces⟩ :=
        List.exists_cons_of_ne_nil (List.splitOnP_ne_nil (· == c) text)
      rw [hpieces] at h ih
      rcases List.mem_cons.1 h with rfl | hrest
      · intro hc
        rcases List.mem_cons.1 hc with rfl | hc
        · exact hd (beq_self_eq_true _)
        · exact ih (List.mem_cons_self ..) hc
      · exact ih (List.mem_cons_of_mem _ hrest)

/-- No piece between slashes has one. -/
theorem not_mem_of_mem_split {text : String} (h : name ∈ Text.split '/' text) :
    '/' ∉ name.toList := by
  obtain ⟨piece, hpiece, rfl⟩ := List.mem_map.1 h
  rw [String.toList_ofList]
  exact not_mem_of_mem_splitOn hpiece

/-- A text is its pieces with slashes between them. -/
theorem intercalate_split (text : String) :
    String.intercalate "/" (Text.split '/' text) = text := by
  have hpieces : (Text.split '/' text).map String.toList = text.toList.splitOn '/' := by
    simp [Text.split, Function.comp_def]
  rw [← String.toList_inj, String.toList_intercalate, hpieces]
  exact List.intercalate_splitOn '/'

theorem intercalate_append (front : List String) (last ending : String) :
    String.intercalate "/" (front ++ [last]) ++ ending =
      String.intercalate "/" (front ++ [last ++ ending]) := by
  induction front with
  | nil => simp
  | cons name front ih =>
    have hcons : ∀ piece, String.intercalate "/" (name :: front ++ [piece]) =
        name ++ "/" ++ String.intercalate "/" (front ++ [piece]) := by
      intro piece
      exact String.intercalate_cons_of_ne_nil (by simp)
    rw [hcons, hcons, String.append_assoc, ih]

theorem length_split (text : String) :
    (Text.split '/' text).length = text.toList.count '/' + 1 := by
  rw [Text.split, List.length_map]
  induction text.toList with
  | nil => rfl
  | cons c cs ih =>
    rw [List.splitOn_cons_eq_if_modifyHead, List.count_cons]
    split <;> simp [ih]

/-- Pieces without slashes are what stands between slashes. -/
theorem split_intercalate (hne : names ≠ []) (h : ∀ name ∈ names, '/' ∉ name.toList) :
    Text.split '/' (String.intercalate "/" names) = names := by
  have hsplit : (String.intercalate "/" names).toList.splitOn '/' = names.map String.toList := by
    rw [String.toList_intercalate]
    exact List.splitOn_intercalate '/' (by simpa using h) (by simpa using hne)
  rw [Text.split, hsplit, List.map_map]
  exact List.map_id'' (fun name => String.ofList_toList) names

/-- An ending without slashes goes to the last piece of a text. -/
theorem split_append (text : String) :
    ∃ front last, ∀ {ending : String}, '/' ∉ ending.toList →
      Text.split '/' (text ++ ending) = front ++ [last ++ ending] := by
  have hne : Text.split '/' text ≠ [] := by
    simp [Text.split, List.splitOn_ne_nil]
  obtain ⟨front, last, hpieces⟩ : ∃ front last, Text.split '/' text = front ++ [last] :=
    ⟨_, _, (List.dropLast_concat_getLast hne).symm⟩
  have hslash : ∀ piece ∈ front ++ [last], '/' ∉ piece.toList := by
    intro piece hpiece
    exact not_mem_of_mem_split (hpieces ▸ hpiece)
  refine ⟨front, last, fun {ending} hending => ?_⟩
  have hlast : '/' ∉ (last ++ ending).toList := by
    have hlast := hslash last (by simp)
    simp [hlast, hending]
  rw [← intercalate_split text, hpieces, intercalate_append, split_intercalate (by simp)]
  intro piece hpiece
  rcases List.mem_append.1 hpiece with hfront | hmem
  · exact hslash piece (List.mem_append_left _ hfront)
  · rwa [List.mem_singleton.1 hmem]

/-- What is read are names. -/
theorem isName_of_mem_partsOf {text : String} (h : name ∈ partsOf text) : IsName name := by
  obtain ⟨hsplit, hcounts⟩ := List.mem_filter.1 h
  exact ⟨not_mem_of_mem_split hsplit, hcounts⟩

/-- The name in front of the first slash. -/
theorem eq_of_append_slash {text other more rest : List Char} (htext : '/' ∉ text)
    (hother : '/' ∉ other) (h : text ++ '/' :: more = other ++ '/' :: rest) : text = other := by
  have hsplit := congrArg (List.splitOnP (· == '/')) h
  have hne : ∀ {cs : List Char}, '/' ∉ cs → ∀ c ∈ cs, (c == '/') = false := by
    intro cs hcs c hc
    rw [beq_eq_false_iff_ne]
    rintro rfl
    exact hcs hc
  rw [List.splitOnP_append_cons_of_forall_mem (hne htext) '/' (by decide),
    List.splitOnP_append_cons_of_forall_mem (hne hother) '/' (by decide)] at hsplit
  exact (List.cons_eq_cons.1 hsplit).1

theorem anchorOf_eq_here {text : String} (h : text.toList.head? ≠ some '/') :
    anchorOf text = .here := by
  unfold anchorOf
  cases htext : text.toList with
  | nil => rfl
  | cons c rest =>
    have hc : c ≠ '/' := by
      rintro rfl
      exact h (by rw [htext]; rfl)
    rw [List.takeWhile_cons_of_neg (by simpa using hc)]

theorem isAbsolute_read_iff {text : String} :
    (read text).isAbsolute = true ↔ text.toList.head? = some '/' := by
  constructor
  · intro h
    by_contra hhead
    rw [isAbsolute, read, anchorOf_eq_here hhead] at h
    exact Bool.false_ne_true h
  · intro h
    have hanchor : anchorOf text ≠ .here := by
      unfold anchorOf
      cases htext : text.toList with
      | nil =>
        rw [htext] at h
        cases h
      | cons c rest =>
        rw [htext] at h
        obtain rfl := Option.some.inj h
        rw [List.takeWhile_cons_of_pos (by decide)]
        split
        · rename_i heq
          cases heq
        · decide
        · decide
    rw [isAbsolute, bne_iff_ne]
    exact hanchor

/-- A dot and a slash before a relative path lead nowhere else. -/
theorem read_dotSlash {text : String} (h : (read text).isAbsolute = false) :
    read ("./" ++ text) = read text := by
  have hanchor : anchorOf text = .here := by
    simpa [isAbsolute, read] using h
  have hhere : anchorOf ("./" ++ text) = .here := anchorOf_eq_here (by simp)
  have hparts : partsOf ("./" ++ text) = partsOf text := partsOf_slash "." text
  rw [read, read, hanchor, hhere, hparts]

/-! ## Names one after the other -/

theorem foldl_push_names (anchored : Bool) (h : ".." ∉ names) (stack : List String) :
    names.foldl (push anchored) stack = names.reverse ++ stack := by
  induction names generalizing stack with
  | nil => rfl
  | cons name names ih =>
    rw [List.mem_cons, not_or] at h
    obtain ⟨hname, hnames⟩ := h
    have hpush : push anchored stack name = name :: stack := if_neg fun heq => hname heq.symm
    rw [List.foldl_cons, hpush, ih hnames, List.reverse_cons, List.append_assoc]
    rfl

/-- Steps up from names that are no steps up; none leads out of the root. -/
theorem foldl_push_up (h : ".." ∉ stack) (n : Nat) :
    (List.replicate n "..").foldl (push true) stack = stack.drop n := by
  induction n generalizing stack with
  | zero => rfl
  | succ n ih =>
    rw [List.replicate_succ, List.foldl_cons]
    cases stack with
    | nil =>
      have hpush : push true [] ".." = [] := by decide
      rw [hpush, ih List.not_mem_nil, List.drop_nil, List.drop_nil]
    | cons top rest =>
      rw [List.mem_cons, not_or] at h
      obtain ⟨htop, hrest⟩ := h
      have hpush : push true (top :: rest) ".." = rest := by
        simp only [push, if_true]
        exact if_neg fun heq => htop heq.symm
      rw [hpush, ih hrest, List.drop_succ_cons]

theorem foldl_push_pop (anchored : Bool) (h : ".." ∉ names) (stack : List String) :
    (List.replicate names.length "..").foldl (push anchored) (names ++ stack) = stack := by
  induction names with
  | nil => rfl
  | cons name names ih =>
    rw [List.mem_cons, not_or] at h
    obtain ⟨hname, hnames⟩ := h
    have hpush : push anchored (name :: names ++ stack) ".." = names ++ stack := by
      simp only [push, List.cons_append, if_true]
      exact if_neg fun heq => hname heq.symm
    rw [List.length_cons, List.replicate_succ, List.foldl_cons, hpush, ih hnames]

/-- As many steps up as there are names before them lead back, wherever the names begin. -/
theorem foldl_push_back (anchored : Bool) (h : ".." ∉ names) (stack : List String) :
    (names ++ List.replicate names.length "..").foldl (push anchored) stack = stack := by
  have hreverse : ".." ∉ names.reverse := fun hmem => h (List.mem_reverse.1 hmem)
  rw [List.foldl_append, foldl_push_names anchored h, ← List.length_reverse,
    foldl_push_pop anchored hreverse]

/-- Behind a root no step up is left. -/
theorem not_mem_foldl_push (h : ".." ∉ stack) : ".." ∉ parts.foldl (push true) stack := by
  induction parts generalizing stack with
  | nil => exact h
  | cons name parts ih =>
    apply ih
    unfold push
    split
    · cases stack with
      | nil => exact List.not_mem_nil
      | cons top rest =>
        rw [List.mem_cons, not_or] at h
        obtain ⟨htop, hrest⟩ := h
        simp only
        rw [if_neg fun heq => htop heq.symm]
        exact hrest
    · rename_i hname
      rw [List.mem_cons, not_or]
      exact ⟨fun heq => hname heq.symm, h⟩

theorem foldl_push_normal (parts stack start : List String) :
    (parts.foldl (push false) stack).reverse.foldl (push true) start =
      parts.foldl (push true) (stack.reverse.foldl (push true) start) := by
  induction parts generalizing stack with
  | nil => rfl
  | cons name parts ih =>
    have hstep : (push false stack name).reverse.foldl (push true) start =
        push true (stack.reverse.foldl (push true) start) name := by
      by_cases hname : name = ".."
      · subst hname
        cases stack with
        | nil => rfl
        | cons top rest =>
          by_cases htop : top = ".."
          · subst htop
            simp [push]
          · -- a step up takes back the name in front of it
            simp [push, htop]
      · have hpush : push false stack name = name :: stack := if_neg hname
        rw [hpush, List.reverse_cons, List.foldl_append]
        rfl
    rw [List.foldl_cons, List.foldl_cons, ih, hstep]

theorem mem_foldl_push (h : name ∈ parts.foldl (push true) stack) : name ∈ parts ∨ name ∈ stack := by
  induction parts generalizing stack with
  | nil => exact .inr h
  | cons other parts ih =>
    rcases ih h with hparts | hpush
    · exact .inl (List.mem_cons_of_mem _ hparts)
    · unfold push at hpush
      split at hpush
      · rename_i hother
        cases stack with
        | nil => cases hpush
        | cons top rest =>
          simp only at hpush
          split at hpush
          · rcases List.mem_cons.1 hpush with rfl | hstack
            · exact .inl (List.mem_cons.2 (.inl hother.symm))
            · exact .inr hstack
          · exact .inr (List.mem_cons_of_mem _ hpush)
      · rcases List.mem_cons.1 hpush with rfl | hstack
        · exact .inl (List.mem_cons_self ..)
        · exact .inr hstack

/-! ## Normal forms -/

/-- The normal form of a path seen from a working directory. -/
def settled (workingDirectory : List String) (p : Path) : Path :=
  ((Path.mk .root workingDirectory).join p).normalize

theorem parts_settled (workingDirectory : List String) (p : Path) :
    (p.settled workingDirectory).parts = p.absolute workingDirectory := rfl

theorem settled_eq (workingDirectory : List String) (p : Path) :
    p.settled workingDirectory =
      ⟨if p.isAbsolute then p.anchor else .root,
        ((if p.isAbsolute then p.parts else workingDirectory ++ p.parts).foldl
          (push true) []).reverse⟩ := by
  cases h : p.isAbsolute with
  | true => simp [settled, join, normalize, h]
  | false =>
    have hroot : (Path.mk .root (workingDirectory ++ p.parts)).isAbsolute = true := rfl
    simp [settled, join, normalize, h, hroot]

theorem not_mem_absolute (workingDirectory : List String) (p : Path) :
    ".." ∉ p.absolute workingDirectory := by
  rw [← parts_settled, settled_eq, List.mem_reverse]
  exact not_mem_foldl_push List.not_mem_nil

/-- The names of a normal form are among those of the working directory and the path. -/
theorem mem_absolute (h : name ∈ p.absolute workingDirectory) :
    name ∈ workingDirectory ∨ name ∈ p.parts := by
  rw [← parts_settled, settled_eq, List.mem_reverse] at h
  rcases mem_foldl_push h with hparts | hnil
  · split at hparts
    · exact .inr hparts
    · exact List.mem_append.1 hparts
  · cases hnil

theorem anchor_settled (h : p.anchor ≠ .doubleRoot) :
    (p.settled workingDirectory).anchor = .root := by
  rw [settled_eq]
  unfold isAbsolute
  cases hp : p.anchor with
  | here => rfl
  | root => rfl
  | doubleRoot => exact absurd hp h

/-- A normal form is not settled anew. -/
theorem settled_normalize (workingDirectory : List String) (p : Path) :
    p.normalize.settled workingDirectory = p.settled workingDirectory := by
  have habsolute : p.normalize.isAbsolute = p.isAbsolute := rfl
  have hanchor : p.normalize.anchor = p.anchor := rfl
  have hparts : p.normalize.parts = (p.parts.foldl (push p.isAbsolute) []).reverse := rfl
  rw [settled_eq, settled_eq, habsolute, hanchor, hparts]
  cases hp : p.isAbsolute with
  | true =>
    have hnames : ".." ∉ (p.parts.foldl (push true) []).reverse := fun hmem =>
      not_mem_foldl_push List.not_mem_nil (List.mem_reverse.1 hmem)
    simp only [if_true]
    rw [foldl_push_names true hnames, List.reverse_reverse, List.append_nil]
  | false =>
    simp only [Bool.false_eq_true, if_false, List.foldl_append]
    rw [foldl_push_normal]
    rfl

/-- A path that goes on from another one. -/
theorem settled_join (hq : q.isAbsolute = false) :
    (p.join q).settled workingDirectory =
      ⟨(p.settled workingDirectory).anchor,
        (q.parts.foldl (push true) (p.absolute workingDirectory).reverse).reverse⟩ := by
  rw [← parts_settled, settled_eq, settled_eq]
  cases hp : p.isAbsolute with
  | true =>
    have hjoin : (Path.mk p.anchor (p.parts ++ q.parts)).isAbsolute = true := hp
    simp [join, hq, hjoin]
  | false =>
    have hjoin : (Path.mk p.anchor (p.parts ++ q.parts)).isAbsolute = false := hp
    simp [join, hq, hjoin]

/-- Going into directories and as many steps back does not matter. -/
theorem normalize_back (p : Path) (h : ".." ∉ names) (parts : List String) :
    (Path.mk p.anchor (p.parts ++ names ++ (List.replicate names.length ".." ++ parts))).normalize =
      (Path.mk p.anchor (p.parts ++ parts)).normalize := by
  have hback := fun anchored stack => foldl_push_back anchored h stack
  simp only [List.foldl_append] at hback
  simp only [normalize, isAbsolute, List.foldl_append, hback]

/-! ## Ways -/

/-- Two lists behind what they have in common. -/
theorem exists_common (start target : List String) :
    ∃ common, start = common ++ (divergence start target).1 ∧
      target = common ++ (divergence start target).2 := by
  fun_induction divergence start target with
  | case1 start a target ih =>
    obtain ⟨common, hstart, htarget⟩ := ih
    exact ⟨a :: common, by rw [List.cons_append, ← hstart], by rw [List.cons_append, ← htarget]⟩
  | case2 a start b target hab => exact ⟨[], rfl, rfl⟩
  | case3 start target hne => exact ⟨[], rfl, rfl⟩

/-- A way goes up to what the directories have in common and then down. -/
theorem wayBetween_eq (start target : List String) :
    wayBetween start target =
      List.replicate (divergence start target).1.length ".." ++ (divergence start target).2 := rfl

/-- The way to a directory inside another one goes through the names behind the latter. -/
theorem wayBetween_append (start names : List String) :
    wayBetween start (start ++ names) = names := by
  unfold wayBetween
  induction start with
  | nil => cases names <;> rfl
  | cons name start ih =>
    rw [List.cons_append, divergence, if_pos rfl]
    exact ih

/-- The way from one directory leads to the other. -/
theorem foldl_push_wayBetween (hstart : ".." ∉ start) (htarget : ".." ∉ target) :
    (wayBetween start target).foldl (push true) start.reverse = target.reverse := by
  obtain ⟨common, hcommon, hdown⟩ := exists_common start target
  have hup : start.reverse.drop (divergence start target).1.length = common.reverse := by
    have hreverse := congrArg List.reverse hcommon
    rw [List.reverse_append] at hreverse
    rw [hreverse, ← List.length_reverse, List.drop_left]
  have hnames : ".." ∉ (divergence start target).2 := by
    intro hmem
    apply htarget
    rw [hdown]
    exact List.mem_append_right _ hmem
  have hstack : ".." ∉ start.reverse := fun hmem => hstart (List.mem_reverse.1 hmem)
  rw [wayBetween_eq, List.foldl_append, foldl_push_up hstack, hup, foldl_push_names true hnames,
    ← List.reverse_append, ← hdown]

/-- Going on from where the way to a target leads is going on from the target. -/
theorem settled_relative (hp : (p.settled workingDirectory).anchor = (q.settled workingDirectory).anchor)
    (parts : List String) :
    (p.join ⟨.here, (relative workingDirectory p q).parts ++ parts⟩).settled workingDirectory =
      (q.join ⟨.here, parts⟩).settled workingDirectory := by
  have hway : (relative workingDirectory p q).parts =
      wayBetween (p.absolute workingDirectory) (q.absolute workingDirectory) := rfl
  rw [settled_join rfl, settled_join rfl, hp, List.foldl_append, hway,
    foldl_push_wayBetween (not_mem_absolute _ p) (not_mem_absolute _ q)]

end Protogen.Path
