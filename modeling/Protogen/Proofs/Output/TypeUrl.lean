import Protogen.Output.File
import Protogen.Proofs.Code.Emits

/-!
# The functions that return type URLs

* `typeUrlFunction` is the text of the function for a JavaScript type and its URL.
* `File.renderTypeUrls_eq`: the text for a file is that of the functions of its types, one for each.
-/

set_option autoImplicit false

namespace Protogen

open Code

/-- Lines that are joined by line feeds, with one behind the last. -/
theorem intercalate_append_feed {lines : List String} (h : lines ≠ []) :
    String.intercalate "\n" lines ++ "\n" = String.join (lines.map (· ++ "\n")) := by
  induction lines with
  | nil => exact absurd rfl h
  | cons line lines ih =>
    cases lines with
    | nil => simp
    | cons next lines =>
      rw [String.intercalate_cons_cons, String.append_assoc, ih (by simp)]
      simp [String.append_assoc]

theorem join_flatMap {α : Type} (items : List α) (g : α → List String) :
    String.join (items.flatMap g) = String.join (items.map fun a => String.join (g a)) := by
  induction items with
  | nil => rfl
  | cons a items ih => rw [List.flatMap_cons, String.join_append, ih, List.map_cons, String.join_cons]

/-- The text of lines, with a line feed behind the last. -/
theorem draft_append_feed {ls : List Line} (h : ls ≠ []) :
    Writer.draft { lines := ls.map (Writer.shift 0) } ++ "\n" =
      String.join (ls.map fun l => Writer.indented "  " (Writer.shift 0 l) ++ "\n") := by
  rw [Writer.draft, intercalate_append_feed]
  · simp [Writer.rendered, Function.comp_def]
  · simpa [Writer.rendered] using h

namespace Schema.File

/-- The text of the function that returns the URL of a JavaScript type. -/
def typeUrlFunction (jsType url : String) : String :=
  "\n" ++ ("// " ++ generatedMarker ++ "\n") ++ (jsType ++ ".typeUrl = function() \x7b\n") ++
    ("  return '" ++ url ++ "';\n") ++ "\x7d;\n"

/-- The lines of that function. -/
def typeUrlLines (jsType url : String) : List Line :=
  [⟨0, ""⟩, ⟨0, "// " ++ generatedMarker⟩,
    ⟨0, jsType ++ ".typeUrl" ++ " = function(" ++ "" ++ ")" ++ " \x7b"⟩,
    ⟨1, "return '" ++ url ++ "';"⟩, ⟨0, "\x7d;"⟩]

theorem emits_emitTypeUrl (fullName : Option String) (url : String) :
    Emits (emitTypeUrl fullName url) (.ok ())
      (typeUrlLines (Naming.typeName (shownName fullName)) url) := by
  have hreturn : Emits (Emission.line ("return '" ++ url ++ "';")) (.ok ()) _ := .line (by simp)
  have hcomment : Emits (Emission.line ("// " ++ generatedMarker)) (.ok ()) _ := .line (by simp)
  have hmethod : Emits (Emission.method (Naming.typeName (shownName fullName) ++ ".typeUrl") ""
      (Emission.line ("return '" ++ url ++ "';"))) (.ok ()) _ := hreturn.method
  have hall : Emits (emitTypeUrl fullName url) (.ok ()) _ :=
    Emits.blank.bind (hcomment.bind hmethod)
  have hshift : Writer.shift 1 ⟨0, "return '" ++ url ++ "';"⟩ = ⟨1, "return '" ++ url ++ "';"⟩ :=
    Writer.shift_of_ne 1 0 (by simp)
  rw [List.map_cons, List.map_nil, hshift] at hall
  exact hall

/-- The lines, each with a line feed behind it, are the text. -/
theorem join_typeUrlLines (jsType url : String) :
    String.join ((typeUrlLines jsType url).map fun l =>
      Writer.indented "  " (Writer.shift 0 l) ++ "\n") = typeUrlFunction jsType url := by
  have hline : ∀ (d : Nat) {text : String}, text ≠ "" →
      Writer.indented "  " (Writer.shift 0 ⟨d, text⟩) =
        String.join (List.replicate d "  ") ++ text := by
    intro d text htext
    rw [Writer.indented_shift_zero, Writer.indented_of_ne _ _ htext]
  have hblank : Writer.indented "  " (Writer.shift 0 ⟨0, ""⟩) = "" := by decide
  simp only [typeUrlLines, List.map_cons, List.map_nil, hblank]
  have hreturn : "  " ++ ("return '" ++ (url ++ "';\n")) = "  return '" ++ (url ++ "';\n") := by
    rw [← String.append_assoc]
    rfl
  rw [hline 0 (by simp), hline 0 (by simp), hline 1 (by simp), hline 0 (by simp)]
  simp [typeUrlFunction, String.append_assoc, ← hreturn]

/-- The text for a file is that of the functions of its types. -/
theorem renderTypeUrls_eq {f : File} {types : List (Option String × String)}
    (h : f.typeUrls = .ok types) (hne : types ≠ []) :
    f.renderTypeUrls = .ok (some (String.join (types.map fun t =>
      typeUrlFunction (Naming.typeName (shownName t.1)) t.2))) := by
  obtain ⟨ls, hls⟩ : ∃ ls, ls = types.flatMap fun t =>
      typeUrlLines (Naming.typeName (shownName t.1)) t.2 := ⟨_, rfl⟩
  have hcode : Emits (types.forM fun t => emitTypeUrl t.1 t.2) (.ok ()) ls := by
    rw [hls]
    exact Emits.forM fun t _ => emits_emitTypeUrl t.1 t.2
  have hlines : ls ≠ [] := by
    cases types with
    | nil => exact absurd rfl hne
    | cons t types => simp [hls, typeUrlLines]
  have hjoin : (ls.map fun l => Writer.indented "  " (Writer.shift 0 l) ++ "\n") =
      types.flatMap fun t => (typeUrlLines (Naming.typeName (shownName t.1)) t.2).map fun l =>
        Writer.indented "  " (Writer.shift 0 l) ++ "\n" := by
    rw [hls, List.map_flatMap]
  have hempty : types.isEmpty = false := by simpa using hne
  rw [renderTypeUrls, h]
  show (if types.isEmpty then _ else _) = _
  rw [hempty, hcode.written]
  show Except.ok (some (Writer.draft { lines := ls.map (Writer.shift 0) } ++ "\n")) = _
  rw [draft_append_feed hlines, hjoin, join_flatMap]
  simp only [join_typeUrlLines]

/-- The text for a file with one type. -/
theorem renderTypeUrls_singleton {f : File} {name url : String}
    (h : f.typeUrls = .ok [(some name, url)]) :
    f.renderTypeUrls = .ok (some (typeUrlFunction (Naming.typeName name) url)) := by
  rw [renderTypeUrls_eq h (List.cons_ne_nil _ _), List.map_singleton]
  simp [shownName]

end Schema.File

end Protogen
