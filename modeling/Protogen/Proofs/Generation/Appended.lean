import Protogen.Proofs.FileTree
import Protogen.Proofs.Generation.Rendered
import Protogen.Proofs.Generation.Unrendered
import Protogen.Proofs.Output.Declaration

/-!
# What a run appends

A run appends the code of a set to the compiled files, writes the index and resolves the imports.

* `adds_appendAll`: the texts of all paths that lead to a location are put behind the text there, and
  nothing else changes.
* `appendCode` and `finish` are the two parts of a run: a run completes if both of them do
  (`run_eq_ok_iff`), and `of_appendCode` takes the first one apart.
* `parserCode` and `urlCode` are the code of all files with a path of their compiled file, `appended`
  is what of it is appended: the last piece of each (`appended_eq`). Nothing is lost exactly if there
  is at most one piece of each (`appended_eq_join_iff`).
-/

set_option autoImplicit false

namespace Protogen.Generation

open Schema Text

variable {g : Generation} {s : FileSet} {w w' v : Workspace} {p : Path} {text : String}

/-! ## Appending -/

theorem adds_append (h : (append p text).run w = (.ok (), v)) :
    w.files.Adds v.files fun l => if l = w.files.destination p then text else "" := by
  obtain ⟨_, made, hmade, h⟩ := Session.run_bind_eq_ok.1 h
  obtain ⟨_, stored, hstored, h⟩ := Session.run_bind_eq_ok.1 h
  rw [Session.run_note] at h
  cases h
  have hdirectories := FileTree.adds_of_makeDirectories
    (Session.files_of_run_makeDirectories hmade)
  have htext := FileTree.adds_of_appendText (Session.files_of_run_change hstored)
  refine (hdirectories.trans htext).congr fun l => ?_
  rw [hdirectories.destination]
  simp

/-- Each text is put behind what is stored where its path leads. -/
theorem adds_appendAll {steps : List Rendered} (h : (appendAll steps).run w = (.ok (), v)) :
    w.files.Adds v.files fun l =>
      String.join (Rendered.textsAt w.files.destination l (Rendered.merge steps)) := by
  have hentries : ∀ (entries : Rendered) (w : Workspace),
      (entries.forM fun e => append e.1 e.2).run w = (.ok (), v) →
        w.files.Adds v.files fun l =>
          String.join (Rendered.textsAt w.files.destination l entries) := by
    intro entries
    induction entries with
    | nil =>
      intro w h
      cases h
      exact (FileTree.Adds.refl _).congr fun l => rfl
    | cons e entries ih =>
      intro w h
      obtain ⟨_, next, hfirst, h⟩ := Session.run_bind_eq_ok.1 h
      have hadd := adds_append hfirst
      have hrest := ih next h
      have hdestination : next.files.destination = w.files.destination :=
        funext hadd.destination
      rw [hdestination] at hrest
      refine (hadd.trans hrest).congr fun l => ?_
      rw [Rendered.textsAt_cons]
      by_cases hl : w.files.destination e.1 = l
      · rw [if_pos hl, if_pos hl.symm, String.join_cons]
      · rw [if_neg hl, if_neg (Ne.symm hl), String.empty_append]
  exact hentries _ w h

/-! ## What is appended -/

/-- The parsers of all files with a path of their compiled file, in the order of the files. -/
def parserCode (g : Generation) (s : FileSet) (p : Path) : List String :=
  match Registry.ofFileSet s with
  | .ok registry => g.codeAt s (g.fileParsers registry) p
  | .error _ => []

/-- The functions that return type URLs of all files with a path of their compiled file. -/
def urlCode (g : Generation) (s : FileSet) (p : Path) : List String :=
  g.codeAt s File.renderTypeUrls p

/-- The text that a run appends to a path. -/
def appended (g : Generation) (s : FileSet) (p : Path) : String :=
  match g.rendered s with
  | .ok code => (Rendered.merge code).textAt p
  | .error _ => ""

/-- The part of a run that appends code. -/
def appendCode (g : Generation) (s : FileSet) : Session Unit :=
  Session.demand (g.rendered s) >>= appendAll

/-- The part of a run behind the appending. -/
def finish (g : Generation) (s : FileSet) : Session Unit := do
  let _ ← g.writeIndex s
  let _ ← g.resolveImports s

/-- A run completes if both of its parts do. -/
theorem run_eq_ok_iff :
    (g.run s).run w = (.ok (), w') ↔
      ∃ v, (g.appendCode s).run w = (.ok (), v) ∧ (g.finish s).run v = (.ok (), w') := by
  rw [run_eq, Session.run_bind_eq_ok]
  constructor
  · rintro ⟨code, _, hcode, hwrite⟩
    obtain ⟨_, v, happend, hfinish⟩ := Session.run_bind_eq_ok.1 hwrite
    exact ⟨v, Session.run_bind_eq_ok.2 ⟨code, _, hcode, happend⟩, hfinish⟩
  · rintro ⟨v, happend, hfinish⟩
    obtain ⟨code, _, hcode, happend⟩ := Session.run_bind_eq_ok.1 happend
    exact ⟨code, _, hcode, Session.run_bind_eq_ok.2 ⟨(), v, happend, hfinish⟩⟩

/-- The code of a set is that of the parsers and that of the functions that return type URLs. -/
theorem rendered_eq_ok {code : List Rendered} (h : g.rendered s = .ok code) :
    ∃ registry parsers typeUrls, Registry.ofFileSet s = .ok registry ∧
      g.renderParsers s registry = .ok parsers ∧ g.renderTypeUrls s = .ok typeUrls ∧
      code = [parsers, typeUrls] := by
  obtain ⟨registry, hregistry, h⟩ := bind_eq_ok.1 h
  obtain ⟨parsers, hparsers, h⟩ := bind_eq_ok.1 h
  obtain ⟨typeUrls, htypeUrls, h⟩ := bind_eq_ok.1 h
  cases h
  exact ⟨registry, parsers, typeUrls, failing_eq_ok.1 hregistry, hparsers, htypeUrls, rfl⟩

/-- What is appended are the parsers and the functions that return type URLs, put together by path. -/
theorem of_appendCode (h : (g.appendCode s).run w = (.ok (), w')) :
    ∃ registry parsers typeUrls, Registry.ofFileSet s = .ok registry ∧
      g.renderParsers s registry = .ok parsers ∧ g.renderTypeUrls s = .ok typeUrls ∧
      ((Rendered.merge [parsers, typeUrls]).forM fun e => append e.1 e.2).run w = (.ok (), w') := by
  obtain ⟨code, _, hdemand, happend⟩ := Session.run_bind_eq_ok.1 h
  obtain ⟨hcode, rfl⟩ := Session.run_demand_eq_ok.1 hdemand
  obtain ⟨registry, parsers, typeUrls, hregistry, hparsers, htypeUrls, rfl⟩ := rendered_eq_ok hcode
  exact ⟨registry, parsers, typeUrls, hregistry, hparsers, htypeUrls, happend⟩

/-- Of the code for a path the last parsers and the last functions are appended. -/
theorem appended_eq {code : List Rendered} (h : g.rendered s = .ok code) (p : Path) :
    g.appended s p = lastText (g.parserCode s p) ++ lastText (g.urlCode s p) := by
  obtain ⟨registry, parsers, typeUrls, hregistry, hparsers, htypeUrls, rfl⟩ := rendered_eq_ok h
  rw [appended, h]
  show (Rendered.merge [parsers, typeUrls]).textAt p = _
  rw [(Rendered.merge_spec _).2, List.flatten_cons, List.flatten_cons, List.flatten_nil,
    List.append_nil, Rendered.textsAt_append, textsAt_renderEach hparsers,
    textsAt_renderEach htypeUrls, String.join_append, parserCode, hregistry]
  rfl

theorem empty_not_mem_codeAt {render : File → Except Failure (Option String)}
    (hrender : ∀ f text, render f = .ok (some text) → text ≠ "") :
    "" ∉ g.codeAt s render p := by
  intro hmem
  cases hfiles : s.files with
  | none => simp [codeAt, hfiles, Rendered.textsAt] at hmem
  | some files =>
    obtain ⟨item, -, hitem⟩ := (mem_codeAt_iff hfiles).1 hmem
    obtain ⟨f, -, htext, -⟩ := exists_of_renderItem hitem
    exact hrender f "" htext rfl

/-- Nothing is lost of the code for a path if there is only one piece of each kind. -/
theorem appended_eq_join_iff {code : List Rendered} (h : g.rendered s = .ok code) (p : Path) :
    g.appended s p = String.join (g.parserCode s p) ++ String.join (g.urlCode s p) ↔
      (g.parserCode s p).length ≤ 1 ∧ (g.urlCode s p).length ≤ 1 := by
  have hparsers : "" ∉ g.parserCode s p := by
    unfold parserCode
    split
    · exact empty_not_mem_codeAt fun f text => File.ne_empty_of_renderParsers
    · exact List.not_mem_nil
  have hurls : "" ∉ g.urlCode s p :=
    empty_not_mem_codeAt fun f text => File.ne_empty_of_renderTypeUrls
  rw [appended_eq h]
  constructor
  · intro heq
    have hlength := congrArg String.length heq
    rw [String.length_append, String.length_append] at hlength
    have hparsersLe := length_lastText_le (g.parserCode s p)
    have hurlsLe := length_lastText_le (g.urlCode s p)
    exact ⟨length_le_of_length_lastText hparsers (by omega),
      length_le_of_length_lastText hurls (by omega)⟩
  · rintro ⟨hparsersOne, hurlsOne⟩
    rw [lastText_of_length_le hparsersOne, lastText_of_length_le hurlsOne]

end Protogen.Generation
