import Protogen.Proofs.Failure
import Protogen.Proofs.Import.Statement

/-!
# Statements by offsets

A statement is its line, cut at the path. It can as well be told by the whole line and the two
offsets between which the path stands. Another path is then spliced in between the offsets, and the
second of them moves.

* `Text.offset?` is the first place of a marker, `cut?_eq_offset?` says that a text is cut there.
* `Located` are lines with offsets; `located_read` and `located_replacePath` say that reading and
  replacing are the same for both, `located_injective` that the offsets tell the statement.
* `Lens` are the laws of a located line with another path, whatever paths have stood there before;
  `lens_foldl_replacePath` is the theorem for all lines with an import and all chains of
  replacements.
-/

set_option autoImplicit false

namespace Protogen

/-! ## The first place of a marker -/

namespace Text

variable {marker text : List Char} {n : Nat}

/-- The first place of a text at which a marker stands. -/
def offset? (marker text : List Char) : Option Nat :=
  (List.range (text.length + 1)).find? fun i => marker.isPrefixOf (text.drop i)

theorem offset?_eq_some_iff :
    offset? marker text = some n ↔
      (n ≤ text.length ∧ marker <+: text.drop n) ∧ ∀ i < n, ¬marker <+: text.drop i := by
  simp only [offset?, List.find?_range_eq_some, List.isPrefixOf_iff_prefix, List.mem_range,
    Nat.lt_succ_iff, Bool.not_eq_true', ← Bool.not_eq_true]
  tauto

/-- A text is cut at the first place of the marker. -/
theorem cut?_eq_offset? (marker text : List Char) :
    cut? marker text =
      (offset? marker text).map fun n => (text.take n, text.drop (n + marker.length)) := by
  cases hcut : cut? marker text with
  | none =>
    have hnone : offset? marker text = none := by
      rw [Option.eq_none_iff_forall_ne_some]
      intro n hn
      obtain ⟨⟨-, rest, hrest⟩, -⟩ := offset?_eq_some_iff.1 hn
      refine cut?_eq_none_iff.1 hcut ⟨text.take n, rest, ?_⟩
      rw [List.append_assoc, hrest, List.take_append_drop]
    rw [hnone]
    rfl
  | some parts =>
    obtain ⟨before, after⟩ := parts
    have htext := eq_of_cut? hcut
    have hdrop : text.drop before.length = marker ++ after := by
      rw [htext, List.append_assoc, List.drop_left]
    have hoffset : offset? marker text = some before.length := by
      refine offset?_eq_some_iff.2 ⟨⟨?_, ?_⟩, fun i hi hprefix => ?_⟩
      · rw [htext]
        simp
      · rw [hdrop]
        exact List.prefix_append _ _
      · -- an earlier occurrence would stand in front of the cut
        obtain ⟨rest, hrest⟩ := hprefix
        have hearlier : text = text.take i ++ marker ++ rest := by
          rw [List.append_assoc, hrest, List.take_append_drop]
        have hle := length_le_of_cut? hcut hearlier
        rw [List.length_take] at hle
        omega
    have htake : text.take before.length = before := by
      rw [htext, List.append_assoc, List.take_left]
    rw [hoffset, Option.map_some, htake, ← List.drop_drop, hdrop, List.drop_left]

end Text

namespace Import

open Text

/-! ## Lines with offsets -/

/-- A line with an import, the path and the offsets between which it stands. -/
structure Located where
  directory : Path
  text : String
  path : String
  start : Nat
  stop : Nat
  deriving DecidableEq, Repr

namespace Located

/-- Finds the first import of a line. -/
def read (directory : Path) (line : String) : Except MalformedImport Located :=
  match offset? opening.toList line.toList with
  | none => .error (.missingStart line)
  | some place =>
    let start := place + opening.length
    match offset? closing.toList (line.toList.drop start) with
    | none => .error (.unterminated line)
    | some length =>
      .ok ⟨directory, line, String.ofList ((line.toList.drop start).take length), start,
        start + length⟩

/-- The line with another path between the offsets. -/
def replacePath (l : Located) (path : String) : Located :=
  { l with
    text := String.ofList (l.text.toList.take l.start ++ path.toList ++ l.text.toList.drop l.stop)
    path := path
    stop := l.start + path.length }

end Located

namespace Statement

variable {s t : Statement}

/-- The line of a statement and the offsets of its path. -/
def located (s : Statement) : Located := ⟨s.directory, s.text, s.path, s.start, s.stop⟩

theorem toList_text (s : Statement) :
    s.text.toList = s.before.toList ++ (s.path.toList ++ s.after.toList) := by
  simp [text]

theorem take_start (s : Statement) : s.text.toList.take s.start = s.before.toList := by
  rw [toList_text, start, ← String.length_toList, List.take_left]

theorem drop_start (s : Statement) :
    s.text.toList.drop s.start = s.path.toList ++ s.after.toList := by
  rw [toList_text, start, ← String.length_toList, List.drop_left]

theorem drop_stop (s : Statement) : s.text.toList.drop s.stop = s.after.toList := by
  have hstop : s.stop = s.start + s.path.toList.length := by
    rw [String.length_toList]
    rfl
  rw [hstop, ← List.drop_drop, drop_start, List.drop_left]

/-- The offsets tell the statement. -/
theorem located_injective (h : s.located = t.located) : s = t := by
  obtain ⟨directory, before, path, after⟩ := s
  obtain ⟨directory', before', path', after'⟩ := t
  simp only [located, Located.mk.injEq] at h
  obtain ⟨rfl, htext, rfl, hstart, hstop⟩ := h
  have hbefore := take_start ⟨directory, before, path, after⟩
  have hafter := drop_stop ⟨directory, before, path, after⟩
  rw [htext, hstart, take_start] at hbefore
  rw [htext, hstop, drop_stop] at hafter
  have hbefore' : before' = before := String.toList_inj.1 hbefore
  have hafter' : after' = after := String.toList_inj.1 hafter
  rw [hbefore', hafter']

/-- A path spliced in between the offsets is another path of the statement. -/
theorem located_replacePath (s : Statement) (path : String) :
    (s.replacePath path).located = s.located.replacePath path := by
  have htext : (s.replacePath path).text =
      String.ofList (s.text.toList.take s.start ++ path.toList ++ s.text.toList.drop s.stop) := by
    rw [take_start, drop_stop, ← String.toList_inj, toList_text, String.toList_ofList,
      List.append_assoc]
    rfl
  simp only [located, Located.replacePath, htext]
  rfl

theorem located_foldl_replacePath (s : Statement) (paths : List String) :
    (paths.foldl replacePath s).located = paths.foldl Located.replacePath s.located := by
  induction paths generalizing s with
  | nil => rfl
  | cons path paths ih => rw [List.foldl_cons, List.foldl_cons, ih, located_replacePath]

/-- Reading a line is finding its first import. -/
theorem located_read (directory : Path) (line : String) :
    (read directory line).map located = Located.read directory line := by
  unfold read Located.read
  cases hopen : offset? opening.toList line.toList with
  | none =>
    rw [cut?_eq_offset?, hopen]
    rfl
  | some place =>
    have hcut := cut?_eq_offset? opening.toList line.toList
    rw [hopen, Option.map_some, String.length_toList] at hcut
    simp only [hcut]
    cases hclose : offset? closing.toList (line.toList.drop (place + opening.length)) with
    | none =>
      rw [cut?_eq_offset?, hclose]
      rfl
    | some length =>
      have hcut' := cut?_eq_offset? closing.toList (line.toList.drop (place + opening.length))
      rw [hclose, Option.map_some] at hcut'
      simp only [hcut', Except.map, located, Except.ok.injEq, Located.mk.injEq, true_and]
      refine ⟨?_, ?_, ?_⟩
      · rw [← String.toList_inj]
        conv_rhs => rw [eq_of_cut? hcut, eq_of_cut? hcut']
        simp [text]
      · have hplace := (offset?_eq_some_iff.1 hopen).1.1
        simp [start, hplace]
      · have hlength := (offset?_eq_some_iff.1 hclose).1.1
        rw [List.length_drop] at hlength
        have hplace := (offset?_eq_some_iff.1 hopen).1.1
        simp [stop, hplace, Nat.min_eq_left hlength]

/-! ## Chains of replacements -/

/-- Of a chain of replacements the last one is left. -/
theorem exists_foldl_replacePath (s : Statement) (paths : List String) :
    ∃ path, paths.foldl replacePath s = s.replacePath path := by
  induction paths generalizing s with
  | nil => exact ⟨s.path, rfl⟩
  | cons path paths ih =>
    obtain ⟨last, hlast⟩ := ih (s.replacePath path)
    exact ⟨last, hlast⟩

variable {directory : Path} {line : String}

/-- A line that can be read is the line of its statement. -/
theorem statementIn_of_read (h : read directory line = .ok s) :
    Resolver.statementIn directory ⟨line.toList, []⟩ = .ok (some s) := by
  have hdeclared : isDeclaredIn line.toList = true := by
    unfold read at h
    split at h
    · cases h
    · rename_i hcut
      simp [isDeclaredIn, occurs, hcut]
  rw [Resolver.statementIn, if_pos hdeclared, String.ofList_toList, h]
  rfl

theorem read_of_statementIn (h : Resolver.statementIn directory ⟨line.toList, []⟩ = .ok (some s)) :
    read directory line = .ok s := by
  unfold Resolver.statementIn at h
  split at h
  · obtain ⟨t, ht, hsome⟩ := map_eq_ok.1 h
    rw [String.ofList_toList] at ht
    rwa [← Option.some.inj hsome]
  · cases h

/-- A statement that was read is read again with another path if and only if no import ends in the
path. -/
theorem read_replacePath_iff (h : read directory line = .ok s) (path : String) :
    read directory (s.replacePath path).text = .ok (s.replacePath path) ↔
      ¬closing.toList <:+: path.toList := by
  have hfound := statementIn_of_read h
  rw [← unclosed_iff]
  constructor
  · intro hread
    obtain ⟨before, rest, path', after, -, hclose, hpath⟩ :=
      statementIn_eq_some_iff.1 (statementIn_of_read hread)
    have hsame : path = String.ofList path' := congrArg Statement.path hpath
    rw [hsame, String.toList_ofList]
    exact unclosed_of_cut? hclose
  · intro hpath
    exact read_of_statementIn (statementIn_replacePath hfound hpath)

end Statement

variable {directory : Path} {line : String} {origin s : Statement}

/-- The laws of what comes of a line with an import, at the offsets of `origin`, when other paths take
the place of the imported one. -/
structure Lens (line : String) (origin l : Located) : Prop where
  /-- the path stands between the offsets -/
  path : (l.text.toList.drop l.start).take (l.stop - l.start) = l.path.toList
  /-- behind it the import ends -/
  closed : closing.toList <+: l.text.toList.drop l.stop
  /-- its own path changes nothing -/
  same : l.replacePath l.path = l
  /-- of two paths the last one is left -/
  last : ∀ p q, (l.replacePath p).replacePath q = l.replacePath q
  /-- around the path stands what stood around the first one -/
  before : l.text.toList.take l.start = line.toList.take origin.start
  after : l.text.toList.drop l.stop = line.toList.drop origin.stop
  /-- another path is found again exactly if no import ends in it -/
  found : ∀ p : String, Located.read l.directory (l.replacePath p).text = .ok (l.replacePath p) ↔
    ¬closing.toList <:+: p.toList

theorem Statement.text_of_read (h : Statement.read directory line = .ok s) : s.text = line :=
  String.toList_inj.1 (text_of_statementIn (statementIn_of_read h))

theorem Statement.closing_of_read (h : Statement.read directory line = .ok s) :
    closing.toList <+: s.after.toList := by
  obtain ⟨before, rest, path, after, -, -, rfl⟩ :=
    statementIn_eq_some_iff.1 (statementIn_of_read h)
  exact ⟨after, by simp⟩

/-- A statement that was read is found at its offsets if it was read with these. -/
theorem Statement.found_iff (s : Statement) (directory : Path) (line : String) :
    Located.read directory line = .ok s.located ↔ Statement.read directory line = .ok s := by
  rw [← Statement.located_read, map_eq_ok]
  constructor
  · rintro ⟨t, ht, hlocated⟩
    rwa [← Statement.located_injective hlocated]
  · intro h
    exact ⟨s, h, rfl⟩

theorem lens_replacePath (h : Statement.read directory line = .ok origin) (path : String) :
    Lens line origin.located (origin.replacePath path).located where
  path := by
    show ((origin.replacePath path).text.toList.drop (origin.replacePath path).start).take
      (origin.start + path.length - origin.start) = path.toList
    rw [Statement.drop_start, Nat.add_sub_cancel_left, ← String.length_toList]
    exact List.take_left
  closed := by
    show closing.toList <+:
      (origin.replacePath path).text.toList.drop (origin.replacePath path).stop
    rw [Statement.drop_stop]
    have hclosing := Statement.closing_of_read h
    exact hclosing
  same := (Statement.located_replacePath (origin.replacePath path) path).symm
  last p q := by
    rw [← Statement.located_replacePath, ← Statement.located_replacePath,
      ← Statement.located_replacePath]
    rfl
  before := by
    show (origin.replacePath path).text.toList.take (origin.replacePath path).start =
      line.toList.take origin.start
    rw [← Statement.text_of_read h, Statement.take_start, Statement.take_start]
    rfl
  after := by
    show (origin.replacePath path).text.toList.drop (origin.replacePath path).stop =
      line.toList.drop origin.stop
    rw [← Statement.text_of_read h, Statement.drop_stop, Statement.drop_stop]
    rfl
  found p := by
    rw [← Statement.located_replacePath, Statement.found_iff]
    have hdirectory : origin.directory = directory :=
      directory_of_statementIn (Statement.statementIn_of_read h)
    subst hdirectory
    exact Statement.read_replacePath_iff h p

/-- Whatever paths are put one after another in the place of the imported path of a line, the offsets
are right, and the laws hold. -/
theorem lens_foldl_replacePath (h : Statement.read directory line = .ok origin)
    (paths : List String) :
    Located.read directory line = .ok origin.located ∧
      (paths.foldl Statement.replacePath origin).located =
        paths.foldl Located.replacePath origin.located ∧
      Lens line origin.located (paths.foldl Statement.replacePath origin).located := by
  refine ⟨(origin.found_iff directory line).2 h, origin.located_foldl_replacePath paths, ?_⟩
  obtain ⟨path, hpath⟩ := origin.exists_foldl_replacePath paths
  rw [hpath]
  exact lens_replacePath h path

/-- A line with two imports, of which the first is that of a statement. -/
def pairLine : String := "let a = require('./a.js'), b = require('./b.js');"

/-- The statement of this line. -/
def pairStatement : Statement :=
  ⟨Path.read "js", "let a = require('", "./a.js", "'), b = require('./b.js');"⟩

/-- A path in which an import ends, and then a longer one. -/
theorem lens_foldl_replacePath_pair :
    Statement.read (Path.read "js") pairLine = .ok pairStatement ∧
      (["x')", "module/a.js"].foldl Statement.replacePath pairStatement).located =
        ⟨Path.read "js", "let a = require('module/a.js'), b = require('./b.js');", "module/a.js",
          17, 28⟩ ∧
      Lens pairLine pairStatement.located
        (["x')", "module/a.js"].foldl Statement.replacePath pairStatement).located ∧
      Located.read (Path.read "js") (pairStatement.located.replacePath "x')").text ≠
        .ok (pairStatement.located.replacePath "x')") := by
  have hread : Statement.read (Path.read "js") pairLine = .ok pairStatement := by decide +kernel
  obtain ⟨-, -, hlens⟩ := lens_foldl_replacePath hread ["x')", "module/a.js"]
  obtain ⟨-, -, hfirst⟩ := lens_foldl_replacePath hread []
  refine ⟨hread, by decide +kernel, hlens, fun hfound => ?_⟩
  exact (hfirst.found "x')").1 hfound ⟨['x'], [], by decide⟩

end Import

end Protogen
