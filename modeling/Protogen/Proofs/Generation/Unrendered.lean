import Protogen.Proofs.Generation.Render
import Protogen.Proofs.Session

/-!
# Schemas of which nothing is written

A run renders the code of all files before it looks at the file tree.

* `rendered` is what a run renders; `run_eq` is the run as the writing of it.
* `LacksParsers` tells for which files of a set no parsers are rendered: also for one with a field
  without code in a message at any depth.
* `IsUnrendered` says of which sets there is no code, because of one of their files, wherever it
  stands; `workspace_untouched` is the proof that nothing is written of them.
-/

set_option autoImplicit false

namespace Protogen.Generation

open Schema

variable {g : Generation} {s : FileSet} {registry : Registry} {files : List (Option File)}
variable {item : Option File} {render : File → Except Failure (Option String)}

/-! ## Rendering before writing -/

/-- The parsers of a file, as the generation renders them. -/
def fileParsers (g : Generation) (registry : Registry) (f : File) :
    Except Failure (Option String) :=
  f.renderParsers registry g.runtimeImport MessageType.isEligible

/-- The code of a set: that of the parsers and that of the functions that return type URLs. -/
def rendered (g : Generation) (s : FileSet) : Except Failure (List Rendered) := do
  let registry ← failing .nullPart (Registry.ofFileSet s)
  let parsers ← g.renderParsers s registry
  let typeUrls ← g.renderTypeUrls s
  pure [parsers, typeUrls]

/-- What a run does with the code of a set. -/
def write (g : Generation) (s : FileSet) (code : List Rendered) : Session Unit := do
  appendAll code
  let _ ← g.writeIndex s
  let _ ← g.resolveImports s

/-- A run renders all code and then writes it. -/
theorem run_eq (g : Generation) (s : FileSet) (w : Workspace) :
    (g.run s).run w = (Session.demand (g.rendered s) >>= g.write s).run w := by
  unfold run rendered
  cases failing .nullPart (Registry.ofFileSet s) with
  | error failure => rfl
  | ok registry =>
    rw [Session.run_demand_ok]
    show _ = (Session.demand (g.renderParsers s registry >>= _) >>= _).run w
    cases g.renderParsers s registry with
    | error failure => rfl
    | ok parsers =>
      rw [Session.run_demand_ok]
      show _ = (Session.demand (g.renderTypeUrls s >>= _) >>= _).run w
      cases g.renderTypeUrls s <;> rfl

/-! ## Files without code -/

/-- A set has no code if one of its files has none, wherever it stands. -/
theorem renderEach_error_of_mem (hfiles : s.files = some files) (hitem : item ∈ files)
    (h : ∃ failure, g.renderItem render item = .error failure) :
    ∃ failure, g.renderEach s render = .error failure := by
  rw [exists_error_iff, exists_renderEach_iff hfiles]
  intro hall
  exact exists_error_iff.1 h (hall item hitem)

/-- A file of a set for which no parsers are rendered. -/
inductive LacksParsers (g : Generation) (registry : Registry) : Option File → Prop
  /-- the parsers, or the path of the compiled file, cannot be worked out -/
  | file {item : Option File} {failure : Failure}
    (h : g.renderItem (g.fileParsers registry) item = .error failure) : LacksParsers g registry item
  /-- there is no code for a field of a message of the file, at any depth -/
  | field {f : File} {t : MessageType} {fields : List (Option Field)} {field : Option Field}
    {failure : Failure} (ht : f.Parses t) (hfields : t.declaration.fields = some fields)
    (hfield : field ∈ fields) (h : (parseDeclared field registry).written = .error failure) :
    LacksParsers g registry (some f)

theorem renderItem_error_of_lacksParsers (h : g.LacksParsers registry item) :
    ∃ failure, g.renderItem (g.fileParsers registry) item = .error failure := by
  cases h with
  | file h => exact ⟨_, h⟩
  | @field f t fields field failure ht hfields hfield hcode =>
    rw [exists_error_iff]
    rintro ⟨r, hr⟩
    -- the file has parsers, so each of its messages has one, and each field has code
    obtain ⟨file, hfile, hr⟩ := bind_eq_ok.1 hr
    cases hfile
    obtain ⟨text, htext, -⟩ := bind_eq_ok.1 hr
    obtain ⟨parser, hparser⟩ := File.exists_renderParser_of_mem htext ht
    obtain ⟨w, hw⟩ := MessageType.exists_written_of_renderParser hparser hfields hfield
    rw [hcode] at hw
    cases hw

theorem renderParsers_error_of_lacksParsers (hfiles : s.files = some files) (hitem : item ∈ files)
    (h : g.LacksParsers registry item) :
    ∃ failure, g.renderParsers s registry = .error failure :=
  renderEach_error_of_mem hfiles hitem (renderItem_error_of_lacksParsers h)

/-- A set without code: it has no registry, or one of its files has no parsers or no functions
that return type URLs, although it has types. -/
inductive IsUnrendered (g : Generation) (s : FileSet) : Prop
  | registry {part : NullPart} (h : Registry.ofFileSet s = .error part)
  | parsers {registry : Registry} {files : List (Option File)} {item : Option File}
    (hregistry : Registry.ofFileSet s = .ok registry) (hfiles : s.files = some files)
    (hitem : item ∈ files) (h : g.LacksParsers registry item)
  | typeUrls {files : List (Option File)} {item : Option File} {failure : Failure}
    (hfiles : s.files = some files) (hitem : item ∈ files)
    (h : g.renderItem File.renderTypeUrls item = .error failure)

theorem rendered_error_of_isUnrendered (h : g.IsUnrendered s) :
    ∃ failure, g.rendered s = .error failure := by
  rw [exists_error_iff]
  rintro ⟨code, hcode⟩
  obtain ⟨known, hknown, hcode⟩ := bind_eq_ok.1 hcode
  obtain ⟨parsers, hparsers, hcode⟩ := bind_eq_ok.1 hcode
  obtain ⟨urls, hurls, -⟩ := bind_eq_ok.1 hcode
  rw [failing_eq_ok] at hknown
  cases h with
  | registry h =>
    rw [h] at hknown
    cases hknown
  | parsers hregistry hfiles hitem h =>
    rw [hregistry] at hknown
    cases hknown
    exact exists_error_iff.1 (renderParsers_error_of_lacksParsers hfiles hitem h) ⟨_, hparsers⟩
  | typeUrls hfiles hitem h =>
    exact exists_error_iff.1 (renderEach_error_of_mem hfiles hitem ⟨_, h⟩) ⟨_, hurls⟩

/-- A run of a set without code fails and leaves the file tree and the records as they are; so does
the creation of the parsers where a file lacks them. -/
theorem workspace_untouched (g : Generation) (s : FileSet) (w : Workspace) :
    (g.IsUnrendered s → ∃ failure, (g.run s).run w = (.error failure, w)) ∧
      ∀ registry files item, s.files = some files → item ∈ files → g.LacksParsers registry item →
        ∃ failure, (g.createParsers s registry).run w = (.error failure, w) := by
  constructor
  · intro h
    obtain ⟨failure, hfailure⟩ := rendered_error_of_isUnrendered h
    refine ⟨failure, ?_⟩
    rw [run_eq, hfailure]
    exact Session.run_demand_error failure w
  · intro registry files item hfiles hitem h
    obtain ⟨failure, hfailure⟩ := renderParsers_error_of_lacksParsers hfiles hitem h
    refine ⟨failure, ?_⟩
    unfold createParsers
    rw [hfailure]
    exact Session.run_demand_error failure w

/-! ### A file without parsers behind one with parsers -/

/-- A file that declares a message without fields. -/
def stockFile : File :=
  { name := some "stock.proto", package := some "shop"
    messages := some [some (.mk (some "Stock") (some []) (some []) (some []))] }

/-- The set of this file and of the orders, with prices by a number with a fraction in a nested
message. -/
def stockAndOrders : FileSet := ⟨some [some stockFile, some orderFile]⟩

/-- A tree with the compiled file of the stock. -/
def compiledStock : Workspace :=
  { files := { nodes := [(["js"], .directory), (["js", "stock_pb.js"], .file "// compiled\n")] } }

theorem lacksParsers_orderFile (g : Generation) (registry : Registry) :
    g.LacksParsers registry (some orderFile) := by
  have hline : orderFile.Parses ⟨some "shop.Order.Line", orderFile, orderLine⟩ :=
    ⟨(declares_order_iff _).2 (.inr rfl), by decide⟩
  let failure : Failure := .inconsistent (.invalidKeyType (some "price") "float")
  exact @LacksParsers.field g registry _ _ _ _ failure hline rfl (List.mem_singleton.2 rfl) rfl

theorem workspace_untouched_orders :
    ({ jsRoot := Path.read "js" } : Generation).IsUnrendered stockAndOrders ∧
      (∃ failure, (({ jsRoot := Path.read "js" } : Generation).run stockAndOrders).run compiledStock =
        (.error failure, compiledStock)) ∧
      ∃ failure, (({ jsRoot := Path.read "js" } : Generation).createParsers stockAndOrders ⟨[]⟩).run
        compiledStock = (.error failure, compiledStock) := by
  have hitem : some orderFile ∈ [some stockFile, some orderFile] := by simp
  have hunrendered : ({ jsRoot := Path.read "js" } : Generation).IsUnrendered stockAndOrders :=
    .parsers rfl rfl hitem (lacksParsers_orderFile _ _)
  obtain ⟨hrun, hcreate⟩ :=
    workspace_untouched { jsRoot := Path.read "js" } stockAndOrders compiledStock
  exact ⟨hunrendered, hrun hunrendered, hcreate ⟨[]⟩ _ _ rfl hitem (lacksParsers_orderFile _ _)⟩

end Protogen.Generation
