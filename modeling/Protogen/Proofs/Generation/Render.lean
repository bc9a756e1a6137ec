import Protogen.Generation
import Protogen.Proofs.Output.File
import Protogen.Proofs.Registry

/-!
# When the code of a schema is rendered

* `renderItem` is what is rendered for one file of a set. `renderEach_eq` puts the code of a set
  together from it, so there is code for the set if there is code for each of its files.
* `Schema.FileSet.IsInconsistent` says, in terms of the schema alone, for which sets no parsers are
  rendered; `renderParsers_fails_iff` is the proof.
-/

set_option autoImplicit false

namespace Protogen

open Schema

/-- Adds what was rendered for a file, if anything was. -/
def Rendered.place (rendered : Rendered) : Option (Path × String) → Rendered
  | none => rendered
  | some r => rendered.set r.1 r.2

namespace Generation

variable {g : Generation} {s : FileSet} {files : List (Option File)} {f : File}
variable {render : File → Except Failure (Option String)}

/-! ## Files -/

/-- What is rendered for a file of a set, with the path of its compiled file. -/
def renderItem (g : Generation) (render : File → Except Failure (Option String))
    (item : Option File) : Except Failure (Option (Path × String)) := do
  let file ← failing .nullPart (declared item)
  match ← render file with
  | none => pure none
  | some text => do
    let path ← failing .nullPart (g.jsPath file)
    pure (some (path, text))

theorem exists_jsPath (h : f.IsComplete) : ∃ path, g.jsPath f = .ok path := by
  obtain ⟨js, hjs⟩ := f.exists_jsFile h
  exact ⟨_, by rw [jsPath, hjs]; rfl⟩

/-- A complete file has a place for whatever is rendered for it. -/
theorem renderItem_eq (h : f.IsComplete) :
    ∃ path, g.renderItem render (some f) =
      (render f).map fun text => text.map fun text => (path, text) := by
  obtain ⟨path, hpath⟩ := exists_jsPath (g := g) h
  refine ⟨path, ?_⟩
  show (do
    match ← render f with
    | none => pure none
    | some text => do
      let path ← failing .nullPart (g.jsPath f)
      pure (some (path, text))) = _
  rw [hpath]
  cases render f with
  | error failure => rfl
  | ok text => cases text <;> rfl

/-! ## Sets -/

/-- The code of a set, by that of its files. -/
theorem renderEach_eq (hfiles : s.files = some files) :
    g.renderEach s render =
      (files.mapM (g.renderItem render)).map fun results => results.foldl Rendered.place [] := by
  unfold renderEach FileSet.fileList
  rw [hfiles]
  refine foldlM_eq_mapM (fun rendered item => ?_) files []
  unfold renderItem
  cases failing .nullPart (declared item) with
  | error failure => rfl
  | ok file =>
    show (render file >>= _) = (render file >>= _).map _
    cases render file with
    | error failure => rfl
    | ok text =>
      cases text with
      | none => rfl
      | some text =>
        show (failing .nullPart (g.jsPath file) >>= _) =
          (failing .nullPart (g.jsPath file) >>= _).map _
        cases failing .nullPart (g.jsPath file) <;> rfl

/-- There is code for a set if there is code, or no need of any, for each of its files. -/
theorem exists_renderEach_iff (hfiles : s.files = some files) :
    (∃ rendered, g.renderEach s render = .ok rendered) ↔
      ∀ item ∈ files, ∃ r, g.renderItem render item = .ok r := by
  rw [renderEach_eq hfiles, ← exists_mapM_iff]
  cases files.mapM (g.renderItem render) <;> simp [Except.map]

end Generation

/-! ## Consistent schemas -/

/-- A set with a field for which no code can be written, in a message at any depth of a file that
is not a standard one. -/
def Schema.FileSet.IsInconsistent (s : FileSet) : Prop :=
  ∃ t, s.DeclaresMessage t ∧ t.file.package ≠ some standardPackage ∧
    t.HasInconsistentField s.Knows

namespace Generation

variable {s : FileSet} {f : File}

/-- The messages that get parsers are those of files that are not standard ones. -/
theorem exists_parses_iff {files : List (Option File)} (hfiles : s.files = some files)
    {P : MessageType → Prop} :
    (∃ f, some f ∈ files ∧ ∃ t, f.Parses t ∧ P t) ↔
      ∃ t, s.DeclaresMessage t ∧ t.file.package ≠ some standardPackage ∧ P t := by
  have heligible : ∀ t : MessageType, t.isEligible = true ↔ t.file.package ≠ some standardPackage := by
    intro t
    simp [MessageType.isEligible, File.isStandard]
  constructor
  · rintro ⟨f, hf, t, ⟨hdeclared, ht⟩, hP⟩
    exact ⟨t, ⟨files, f, hfiles, hf, hdeclared⟩, (heligible t).1 ht, hP⟩
  · rintro ⟨t, ⟨files', f, hfiles', hf, hdeclared⟩, ht, hP⟩
    rw [hfiles] at hfiles'
    cases hfiles'
    exact ⟨f, hf, t, ⟨hdeclared, (heligible t).2 ht⟩, hP⟩

/-- The parsers of a complete set without braces in the names of fields are rendered unless the set
is inconsistent, and there is no other cause of a failure. -/
theorem renderParsers_fails_iff (g : Generation) (s : FileSet) (hcomplete : s.IsComplete)
    (hnames : ∀ t, s.DeclaresMessage t → t.hasPlainNames) :
    ∃ registry, Registry.ofFileSet s = .ok registry ∧
      ((∃ failure, g.renderParsers s registry = .error failure) ↔ s.IsInconsistent) ∧
      ∀ failure, g.renderParsers s registry = .error failure → failure.IsInconsistency := by
  obtain ⟨registry, hregistry, hknows⟩ := Registry.ofFileSet_spec hcomplete
  obtain ⟨files, hfiles, hfull⟩ := hcomplete.files
  have hfile : ∀ f, some f ∈ files → f.IsComplete := hcomplete.each files hfiles
  have hfileNames : ∀ f, some f ∈ files → ∀ t, f.DeclaresMessage t → t.hasPlainNames :=
    fun f hf t ht => hnames t ⟨files, f, hfiles, hf, ht⟩
  refine ⟨registry, hregistry, ?_, ?_⟩
  · rw [exists_error_iff, renderParsers, exists_renderEach_iff hfiles, FileSet.IsInconsistent,
      ← exists_parses_iff hfiles]
    have hitem : ∀ f, some f ∈ files →
        ((∃ r, g.renderItem (fun file => file.renderParsers registry g.runtimeImport
            MessageType.isEligible) (some f) = .ok r) ↔
          ∀ t, f.Parses t → ¬t.HasInconsistentField s.Knows) := by
      intro f hf
      obtain ⟨path, hpath⟩ := renderItem_eq (g := g) (hfile f hf)
      rw [hpath, ← File.exists_renderParsers_iff (hfile f hf) (hfileNames f hf) hknows
        g.runtimeImport]
      cases f.renderParsers registry g.runtimeImport MessageType.isEligible <;> simp [Except.map]
    constructor
    · intro hnot
      by_contra hconsistent
      apply hnot
      intro item hitemMem
      cases item with
      | none => exact absurd hitemMem hfull
      | some f =>
        apply (hitem f hitemMem).2
        intro t ht hinconsistent
        exact hconsistent ⟨f, hitemMem, t, ht, hinconsistent⟩
    · rintro ⟨f, hf, t, ht, hinconsistent⟩ hall
      exact (hitem f hf).1 (hall (some f) hf) t ht hinconsistent
  · have honly : OnlyInconsistent (g.renderParsers s registry) := by
      rw [renderParsers, renderEach_eq hfiles]
      refine (OnlyInconsistent.mapM fun item hitemMem => ?_).map
      cases item with
      | none => exact absurd hitemMem hfull
      | some f =>
        obtain ⟨path, hpath⟩ := renderItem_eq (g := g) (hfile f hitemMem)
        rw [hpath]
        exact (File.onlyInconsistent_renderParsers (hfile f hitemMem) (hfileNames f hitemMem)
          registry g.runtimeImport).map
    exact honly

/-! ### A set with an inconsistent field in a nested message -/

/-- A line of an order, with prices by a number with a fraction. -/
def orderLine : Message :=
  .mk (some "Line")
    (some [some { name := some "price",
                  map := some ⟨some ⟨some "float", none⟩, some ⟨some "int64", none⟩⟩ }])
    (some []) (some [])

/-- An order, which knows its lines. -/
def orderWithLines : Message :=
  .mk (some "Order")
    (some [some { name := some "lines", repeated := some true,
                  type := some ⟨some "message", some ".shop.Order.Line"⟩ }])
    (some [some orderLine]) (some [])

/-- The file that declares orders. -/
def orderFile : File :=
  { name := some "order.proto", package := some "shop", messages := some [some orderWithLines] }

/-- The set of this file. -/
def orderFiles : FileSet := ⟨some [some orderFile]⟩

theorem declares_order_iff (t : MessageType) :
    orderFile.DeclaresMessage t ↔
      t = ⟨some "shop.Order", orderFile, orderWithLines⟩ ∨
        t = ⟨some "shop.Order.Line", orderFile, orderLine⟩ := by
  have horder : qualify orderFile.package none orderWithLines.name = some "shop.Order" := by decide
  have hline : qualify orderFile.package (some "shop.Order") orderLine.name =
      some "shop.Order.Line" := by decide
  have hnested : orderWithLines.messages = some [some orderLine] := rfl
  have hnone : orderLine.messages = some [] := rfl
  have hmessages : orderFile.messages = some [some orderWithLines] := rfl
  simp only [File.DeclaresMessage, hmessages, Option.some.injEq, exists_eq_left', declares_cons_iff,
    horder, hnested, hline, hnone, not_declares_nil, or_false]

theorem isComplete_order : orderFiles.IsComplete := by
  have hempty : ∀ α : Type, IsFull (some ([] : List (Option α))) :=
    fun α => ⟨[], rfl, by simp⟩
  have hmessage : ∀ t, orderFile.DeclaresMessage t → t.declaration.IsComplete := by
    intro t ht
    rcases (declares_order_iff t).1 ht with rfl | rfl
    · refine ⟨⟨_, rfl, by simp⟩, ⟨_, rfl, by simp⟩, hempty Enum, ?_⟩
      rintro fields ⟨⟩ f hf
      obtain rfl := Option.some.inj (List.mem_singleton.1 hf)
      refine ⟨by simp, fun entry hentry => ?_⟩
      cases hentry
    · refine ⟨⟨_, rfl, by simp⟩, hempty Message, hempty Enum, ?_⟩
      rintro fields ⟨⟩ f hf
      obtain rfl := Option.some.inj (List.mem_singleton.1 hf)
      refine ⟨by simp, fun entry hentry => ?_⟩
      cases hentry
      exact ⟨by simp, by simp⟩
  refine ⟨⟨_, rfl, by simp⟩, ?_⟩
  rintro files ⟨⟩ f hf
  obtain rfl := Option.some.inj (List.mem_singleton.1 hf)
  exact ⟨by simp [orderFile], ⟨_, rfl, by simp⟩, hempty Enum, hmessage⟩

theorem declaresMessage_order_iff (t : MessageType) :
    orderFiles.DeclaresMessage t ↔ orderFile.DeclaresMessage t := by
  constructor
  · rintro ⟨files, f, ⟨⟩, hf, ht⟩
    obtain rfl := Option.some.inj (List.mem_singleton.1 hf)
    exact ht
  · intro ht
    exact ⟨_, orderFile, rfl, List.mem_singleton.2 rfl, ht⟩

theorem hasPlainNames_orderFiles : ∀ t, orderFiles.DeclaresMessage t → t.hasPlainNames := by
  intro t ht fields hfields f hf
  rw [declaresMessage_order_iff, declares_order_iff] at ht
  rcases ht with rfl | rfl
  all_goals
    cases hfields
    obtain rfl := Option.some.inj (List.mem_singleton.1 hf)
    decide

theorem isInconsistent_order : orderFiles.IsInconsistent := by
  have hline : orderFiles.DeclaresMessage ⟨some "shop.Order.Line", orderFile, orderLine⟩ := by
    rw [declaresMessage_order_iff, declares_order_iff]
    exact .inr rfl
  refine ⟨_, hline, by decide, _, _, rfl, List.mem_singleton.2 rfl, ?_⟩
  exact .key rfl rfl (by decide)

theorem renderParsers_fails_order :
    orderFiles.IsComplete ∧ (∀ t, orderFiles.DeclaresMessage t → t.hasPlainNames) ∧
      orderFiles.IsInconsistent ∧
      ∃ registry failure, Registry.ofFileSet orderFiles = .ok registry ∧
        ({ jsRoot := Path.read "js" } : Generation).renderParsers orderFiles registry =
          .error failure ∧
        failure.IsInconsistency := by
  obtain ⟨registry, hregistry, hfails, honly⟩ :=
    renderParsers_fails_iff { jsRoot := Path.read "js" } orderFiles isComplete_order
      hasPlainNames_orderFiles
  obtain ⟨failure, hfailure⟩ := hfails.2 isInconsistent_order
  exact ⟨isComplete_order, hasPlainNames_orderFiles, isInconsistent_order, registry, failure,
    hregistry, hfailure, honly failure hfailure⟩

end Generation

end Protogen
