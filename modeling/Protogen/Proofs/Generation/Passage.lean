import Protogen.Proofs.FileTree.Destination
import Protogen.Proofs.Generation.Filed
import Protogen.Proofs.Generation.Rewritten
import Protogen.Proofs.Import.Passage

/-!
# Passages of compiled files

* `Holds` says that the text at a location has a passage in it, between what comes of given texts.
* `holds_of_resolveCompiled` is what the resolution of one compiled file does to a passage.
* `holds_of_mapM`: a passage that turns into one text, whatever path leads to its file, does so when
  the imports of the compiled files are resolved, however often that file is among them.
-/

set_option autoImplicit false

namespace Protogen.Generation

open Schema FileTree Import Text

variable {g : Generation} {r : Resolver} {t u : FileTree} {l : Location} {path : Path} {f : File}
variable {before passage result after : String} {w w' v : Workspace} {s : FileSet}
variable {files : List (Option File)}

/-- Compiled files are in the directory that their path names. -/
theorem destination_parent_jsPath (h : g.jsPath f = .ok path) (t : FileTree) :
    t.destination path.parent = (t.destination path).dropLast := by
  obtain ⟨parts, stem, hparts⟩ := exists_parts_jsPath h
  rw [destination_parent hparts (compiledName_ne stem (by decide)), List.dropLast_concat]

/-- The text at a location has a passage in it, between what comes of two other texts when their
imports are resolved. -/
def Holds (r : Resolver) (l : Location) (before passage after : String) (t : FileTree) : Prop :=
  ∃ before' after', t.content l = before' ++ passage ++ after' ∧ IsFed before' ∧
    r.Becomes before before' ∧ r.Becomes after after'

/-- A passage of the text at a location turns into one text, whichever path names the directory. -/
def TurnsAt (r : Resolver) (t : FileTree) (l : Location) (passage result : String) : Prop :=
  ∀ directory, t.destination directory = l.dropLast → r.Turns directory passage result

theorem holds_of_rewrites (h : Rewrites r t path u) (hturns : r.Turns path.parent passage result)
    (hholds : Holds r (t.destination path) before passage after t) :
    Holds r (t.destination path) before result after u := by
  obtain ⟨old, new, hold, hnew, htext⟩ := h.text
  obtain ⟨before', after', hcontent, hfed, hbefore, hafter⟩ := hholds
  rw [content_of_file hold] at hcontent
  rw [hcontent] at hnew
  obtain ⟨before'', after'', rfl, hfed', hbefore', hafter'⟩ :=
    Resolver.rewrite_passage hfed hturns hnew
  exact ⟨before'', after'', content_of_file htext, hfed', hbefore.trans hbefore',
    hafter.trans hafter'⟩

/-- The resolution of a compiled file turns a passage if it is one of this file, and otherwise leaves
it. -/
theorem holds_of_resolveCompiled {item : Option File} {changed : Option Path}
    (h : (g.resolveCompiled item).run w = (.ok changed, w')) (hr : g.resolver w.files = r)
    (hturns : TurnsAt r w.files l passage result) (hholds : Holds r l before passage after w.files) :
    Holds r l before result after w'.files ∨ Holds r l before passage after w'.files ∧
      ∀ f path, item = some f → g.jsPath f = .ok path → w.files.destination path = l →
        w.files.isPresent path = false := by
  obtain ⟨f, path, rfl, hpath, hrewrites⟩ := resolveCompiled_rewrites h
  have hsame : ∀ f' path', some f = some f' → g.jsPath f' = .ok path' → path' = path := by
    rintro f' path' heq hpath'
    cases heq
    exact Except.ok.inj (hpath'.symm.trans hpath)
  by_cases hpresent : w.files.isPresent path = true
  · rw [if_pos hpresent, hr] at hrewrites
    by_cases hl : w.files.destination path = l
    · subst hl
      have hparent := destination_parent_jsPath hpath w.files
      exact .inl (holds_of_rewrites hrewrites (hturns path.parent hparent) hholds)
    · have hkept : w'.files.content l = w.files.content l := by
        rw [content, content, hrewrites.other l (Ne.symm hl)]
      refine .inr ⟨by rwa [Holds, hkept], fun f' path' heq hpath' hl' => ?_⟩
      exact absurd (hsame f' path' heq hpath' ▸ hl') hl
  · rw [if_neg hpresent] at hrewrites
    rw [hrewrites]
    refine .inr ⟨hholds, fun f' path' heq hpath' _ => ?_⟩
    rw [hsame f' path' heq hpath']
    exact Bool.eq_false_iff.2 hpresent

/-- A passage turns when its file is resolved, and then stays as it is. -/
theorem holds_of_mapM {items : List (Option File)} {results : List (Option Path)}
    (h : (items.mapM g.resolveCompiled).run w = (.ok results, w')) (hr : g.resolver w.files = r)
    (hturns : TurnsAt r w.files l passage result) (hstays : TurnsAt r w.files l result result)
    (hthere : passage = result ∨ ∃ f path, some f ∈ items ∧ g.jsPath f = .ok path ∧
      w.files.destination path = l ∧ w.files.isPresent path = true)
    (hholds : Holds r l before passage after w.files) : Holds r l before result after w'.files := by
  -- once the passage has turned, it is its own result
  induction items generalizing w results passage with
  | nil =>
    cases h
    obtain rfl : passage = result := hthere.resolve_right fun ⟨_, _, hmem, _⟩ => by cases hmem
    exact hholds
  | cons item items ih =>
    rw [List.mapM_cons] at h
    obtain ⟨_, v, hfirst, h⟩ := Session.run_bind_eq_ok.1 h
    obtain ⟨rest, _, hrest, h⟩ := Session.run_bind_eq_ok.1 h
    cases h
    have hshape := sameShape_of_resolveCompiled hfirst
    have hdestination : v.files.destination = w.files.destination := funext hshape.destination
    have hresolver : g.resolver v.files = r := (resolver_eq hshape).trans hr
    have hlater : ∀ {passage}, TurnsAt r w.files l passage result →
        TurnsAt r v.files l passage result := by
      intro passage hturns
      rwa [TurnsAt, hdestination]
    rcases holds_of_resolveCompiled hfirst hr hturns hholds with hturned | ⟨hkept, hskipped⟩
    · exact ih hrest hresolver (hlater hstays) (hlater hstays) (.inl rfl) hturned
    · refine ih hrest hresolver (hlater hturns) (hlater hstays) (hthere.imp_right ?_) hkept
      rintro ⟨f, path, hmem, hpath, hl, hpresent⟩
      refine ⟨f, path, (List.mem_cons.1 hmem).resolve_left fun heq => ?_, hpath, ?_, ?_⟩
      · rw [hskipped f path heq.symm hpath hl] at hpresent
        cases hpresent
      · rw [hdestination, hl]
      · rw [hshape.isPresent, hpresent]

/-! ## Runs -/

/-- The index leaves a compiled file as it is, and where it can be found. -/
theorem of_writeIndex {indexPath : Path} (h : (g.writeIndex s).run w = (.ok indexPath, v))
    (hpath : g.jsPath f = .ok path) :
    v.files.destination = w.files.destination ∧
      v.files.content (w.files.destination path) = w.files.content (w.files.destination path) ∧
      (IsShort path → (∀ l ∈ w.files.way path.parent, w.files.find? l = some .directory) →
        w.files.content (w.files.destination path) ≠ "" → v.files.isPresent path = true) := by
  obtain ⟨text, -, haccepts, hstored⟩ := stored_of_writeIndex h
  have hcontent := (content_writeIndex h).2 _ (destination_jsPath_ne hpath _)
  refine ⟨funext hstored.destination, hcontent, fun hshort hway hne => ?_⟩
  refine isPresent_of_way hshort (fun l hl => ?_) fun hnone => hne ?_
  · rw [hstored.way] at hl
    exact hstored.keeps_directory haccepts (hway l hl)
  · rw [← hcontent, ← hstored.destination path, content_of_none hnone]

/-- The passages of a compiled file that is there turn when a run goes on. -/
theorem holds_of_finish (hfiles : s.files = some files) (h : (g.finish s).run w = (.ok (), w'))
    (hf : some f ∈ files) (hpath : g.jsPath f = .ok path) (hl : w.files.destination path = l)
    (hshort : IsShort path)
    (hway : ∀ k ∈ w.files.way path.parent, w.files.find? k = some .directory)
    (hne : w.files.content l ≠ "")
    (hturns : TurnsAt (g.resolver w'.files) w'.files l passage result)
    (hstays : TurnsAt (g.resolver w'.files) w'.files l result result)
    (hholds : Holds (g.resolver w'.files) l before passage after w.files) :
    Holds (g.resolver w'.files) l before result after w'.files := by
  subst hl
  obtain ⟨_, v, _, hindex, hresults⟩ := of_finish hfiles h
  obtain ⟨hdestination, hcontent, hthere⟩ := of_writeIndex hindex hpath
  have hshape := sameShape_of_mapM hresults
  have hplaces : w'.files.destination = v.files.destination := funext hshape.destination
  rw [TurnsAt, hplaces] at hturns hstays
  have hpresent := hthere hshort hway hne
  rw [← hdestination] at hturns hstays hholds hcontent ⊢
  refine holds_of_mapM hresults (resolver_eq hshape).symm hturns hstays
    (.inr ⟨f, path, hf, hpath, rfl, hpresent⟩) ?_
  rwa [Holds, hcontent]

end Protogen.Generation
