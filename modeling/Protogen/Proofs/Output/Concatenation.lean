import Protogen.Proofs.Output.Balance
import Protogen.Proofs.Output.Parser

/-!
# The method of a parser, field by field

The code of a field is the same wherever it is written, so the method that turns a plain object into
a message is its frame around the codes of its fields, each of them as it is by itself.

* `fieldCode` is the code of a field on a new writer.
* `methodText` is the text of the method, made from the codes of its fields; `method_concatenates`
  says when there is one, which failure there is otherwise, and that a field that is added, removed
  or changed leaves the code of the others as it is.
-/

set_option autoImplicit false

namespace Protogen

open Code

/-! ## Code of a field by itself -/

/-- The code of a field on a new writer. -/
def fieldCode (registry : Registry) : Option Schema.Field → Except Failure Writer
  | some f => (FieldToParse.generate { field := f } registry).written
  | none => .error (.nullPart .declaration)

theorem parseDeclared_follows_fieldCode (registry : Registry) (field : Option Schema.Field) :
    Follows (parseDeclared field registry) (fieldCode registry field) Writer.lines := by
  cases field with
  | none => exact Follows.error (Emits.demand _).bind_error
  | some f =>
    have hbalances : Balances _ _ (FieldToParse.generate { field := f } registry) :=
      FieldToParse.balances_generate
    obtain ⟨r, ls, hemits, -, -⟩ := hbalances
    exact Follows.after (Emits.demand (.ok f)) (Follows.of_emits hemits)

theorem indent_of_fieldCode {registry : Registry} {field : Option Schema.Field} {code : Writer}
    (h : fieldCode registry field = .ok code) : code.indent = "  " := by
  cases field with
  | none => cases h
  | some f => exact (FieldToParse.balances_generate.written h).1

/-- A line one level deeper; an empty one stays at the margin. -/
def indentOnce (line : String) : String := if line.isEmpty then "" else "  " ++ line

theorem indented_shift_one (l : Line) :
    Writer.indented "  " (Writer.shift 1 l) = indentOnce (Writer.indented "  " l) := by
  obtain ⟨depth, text⟩ := l
  by_cases h : text = ""
  · simp [h, Writer.shift, Writer.indented, indentOnce]
  · have hne : String.join (List.replicate depth "  ") ++ text ≠ "" := by simp [h]
    rw [Writer.shift_of_ne 1 depth h, Writer.indented_of_ne _ _ h, Writer.indented_of_ne _ _ h,
      indentOnce, if_neg (by rwa [String.isEmpty_iff]), Nat.add_comm, List.replicate_succ,
      String.join_cons, String.append_assoc]

namespace Schema

/-- The message with other fields. -/
def Message.withFields (fields : List (Option Field)) : Message → Message
  | .mk name _ messages enums => .mk name (some fields) messages enums

namespace MessageType

/-- The message type with other fields. -/
def withFields (t : MessageType) (fields : List (Option Field)) : MessageType :=
  { t with declaration := t.declaration.withFields fields }

/-- The text of the method, made from the codes of its fields. -/
def methodText (t : MessageType) (codes : List Writer) : List String :=
  [t.parser ++ ".prototype.fromObject = function(obj) \x7b", "  if (obj === null) \x7b",
    "    return null;", "  \x7d", "", "  let msg = new " ++ t.jsType ++ "();"] ++
    codes.flatMap (fun code => "" :: code.rendered.map indentOnce) ++
    ["", "  return msg;", "\x7d;"]

variable {t : MessageType} {registry : Registry} {fields : List (Option Field)}

/-- The method is written if there is code for each of its fields, and fails as they do. -/
theorem fromObjectMethod_eq_codes (hfields : t.declaration.fields = some fields) :
    t.fromObjectMethod registry = (fields.mapM (fieldCode registry)).map fun codes =>
      ({ lines := (t.methodFrame (codes.flatMap fun code => [⟨0, ""⟩] ++ code.lines)).map
          (Writer.shift 0) } : Writer) := by
  have hwanted : failing .nullPart (wanted t.declaration.fields) = .ok fields :=
    failing_eq_ok.2 (wanted_eq_ok_iff.2 hfields)
  have hframes := emitMethod_frames t registry fun _ _ field _ =>
    parseDeclared_follows_fieldCode registry field
  rw [hwanted] at hframes
  exact hframes.written

/-- A line at the margin is its text. -/
theorem indented_margin (text : String) : Writer.indented "  " ⟨0, text⟩ = text := by
  by_cases h : text = ""
  · simp [h, Writer.indented]
  · rw [Writer.indented_of_ne _ _ h]
    simp

theorem rendered_methodFrame {codes : List Writer} (hindent : ∀ code ∈ codes, code.indent = "  ") :
    ({ lines := (t.methodFrame (codes.flatMap fun code => [⟨0, ""⟩] ++ code.lines)).map
        (Writer.shift 0) } : Writer).rendered = t.methodText codes := by
  have hcodes : (codes.flatMap fun code => [⟨0, ""⟩] ++ code.lines).map
      (fun l => indentOnce (Writer.indented "  " l)) =
        codes.flatMap fun code => "" :: code.rendered.map indentOnce := by
    rw [List.map_flatMap]
    refine List.flatMap_congr fun code hcode => ?_
    rw [Writer.rendered, hindent code hcode, List.map_map]
    rfl
  have hheader : t.parser ++ ".prototype.fromObject" ++ " = function(" ++ "obj" ++ ")" ++ " \x7b" =
      t.parser ++ ".prototype.fromObject = function(obj) \x7b" := by
    simp only [String.append_assoc]
    rfl
  have hcreate : indentOnce ("let msg = new " ++ t.jsType ++ "();") =
      "  let msg = new " ++ t.jsType ++ "();" := by
    have hstart : "  let msg = new " = "  " ++ "let msg = new " := by decide
    rw [indentOnce, if_neg (by simp), hstart, String.append_assoc, String.append_assoc,
      String.append_assoc]
  show (List.map _ (List.map _ _)) = _
  rw [methodText, ← hcodes, ← hcreate, ← hheader]
  simp only [methodFrame, List.map_cons, List.map_append, List.map_map, Function.comp_def,
    Writer.indented_shift_zero, indented_shift_one, indented_margin, List.map_nil]
  simp only [List.cons_append, List.append_assoc, List.nil_append]
  rfl

/-- The method is written if there is code for each of its fields, and its text is made from them;
otherwise it fails as the first field for which there is none. -/
theorem method_rendered (registry : Registry) (hfields : t.declaration.fields = some fields) :
    (t.fromObjectMethod registry).map Writer.rendered =
      (fields.mapM (fieldCode registry)).map t.methodText := by
  rw [fromObjectMethod_eq_codes hfields]
  cases hcodes : fields.mapM (fieldCode registry) with
  | error failure => rfl
  | ok codes =>
    have hindent : ∀ code ∈ codes, code.indent = "  " := by
      intro code hcode
      obtain ⟨field, -, hfield⟩ := (mem_mapM_iff hcodes code).1 hcode
      exact indent_of_fieldCode hfield
    exact congrArg Except.ok (rendered_methodFrame hindent)

theorem exists_codes {w : Writer} (hfields : t.declaration.fields = some fields)
    (h : t.fromObjectMethod registry = .ok w) :
    ∃ codes, fields.mapM (fieldCode registry) = .ok codes ∧ w.rendered = t.methodText codes := by
  have hrendered := method_rendered registry hfields
  rw [h] at hrendered
  obtain ⟨codes, hcodes, htext⟩ := map_eq_ok.1 hrendered.symm
  exact ⟨codes, hcodes, htext.symm⟩

theorem exists_method {codes : List Writer} (hfields : t.declaration.fields = some fields)
    (h : fields.mapM (fieldCode registry) = .ok codes) :
    ∃ w, t.fromObjectMethod registry = .ok w ∧ w.rendered = t.methodText codes := by
  have hrendered := method_rendered registry hfields
  rw [h] at hrendered
  exact map_eq_ok.1 hrendered

theorem fields_withFields (t : MessageType) (fields : List (Option Field)) :
    (t.withFields fields).declaration.fields = some fields := by
  obtain ⟨fullName, file, declaration⟩ := t
  cases declaration
  rfl

/-- There is a method exactly if there is code for each field by itself, and then its lines are
those of its frame and of its fields, each with an empty line in front and one level deeper. It
fails as the first field fails. If some of the fields are replaced by others, in any number, the
code of those before and behind stays as it is. -/
theorem method_concatenates (t : MessageType) (registry : Registry) {fields : List (Option Field)}
    (hfields : t.declaration.fields = some fields) :
    ((∃ w, t.fromObjectMethod registry = .ok w) ↔
        ∀ field ∈ fields, ∃ code, fieldCode registry field = .ok code) ∧
      (∀ w, t.fromObjectMethod registry = .ok w → ∃ codes,
        List.Forall₂ (fun field code => fieldCode registry field = .ok code) fields codes ∧
          w.rendered = t.methodText codes) ∧
      (∀ failure, t.fromObjectMethod registry = .error failure ↔
        ∃ before field after, fields = before ++ field :: after ∧
          (∀ other ∈ before, ∃ code, fieldCode registry other = .ok code) ∧
          fieldCode registry field = .error failure) ∧
      ∀ before old after new w newCodes, fields = before ++ old ++ after →
        t.fromObjectMethod registry = .ok w → new.mapM (fieldCode registry) = .ok newCodes →
        ∃ codesBefore oldCodes codesAfter w', before.mapM (fieldCode registry) = .ok codesBefore ∧
          old.mapM (fieldCode registry) = .ok oldCodes ∧
          after.mapM (fieldCode registry) = .ok codesAfter ∧
          w.rendered = t.methodText (codesBefore ++ oldCodes ++ codesAfter) ∧
          (t.withFields (before ++ new ++ after)).fromObjectMethod registry = .ok w' ∧
          w'.rendered = t.methodText (codesBefore ++ newCodes ++ codesAfter) := by
  refine ⟨?_, fun w hw => ?_, fun failure => ?_, ?_⟩
  · rw [← exists_mapM_iff]
    constructor
    · rintro ⟨w, hw⟩
      obtain ⟨codes, hcodes, -⟩ := exists_codes hfields hw
      exact ⟨codes, hcodes⟩
    · rintro ⟨codes, hcodes⟩
      obtain ⟨w, hw, -⟩ := exists_method hfields hcodes
      exact ⟨w, hw⟩
  · obtain ⟨codes, hcodes, htext⟩ := exists_codes hfields hw
    exact ⟨codes, mapM_eq_ok_iff.1 hcodes, htext⟩
  · rw [← mapM_eq_error_iff, fromObjectMethod_eq_codes hfields, map_eq_error]
  · rintro before old after new w newCodes rfl hw hnew
    obtain ⟨codes, hcodes, htext⟩ := exists_codes hfields hw
    rw [List.mapM_append, List.mapM_append] at hcodes
    obtain ⟨front, hfront, hcodes⟩ := bind_eq_ok.1 hcodes
    obtain ⟨codesBefore, hbefore, hfront⟩ := bind_eq_ok.1 hfront
    obtain ⟨oldCodes, hold, hfront⟩ := bind_eq_ok.1 hfront
    obtain ⟨codesAfter, hafter, hcodes⟩ := bind_eq_ok.1 hcodes
    cases hfront
    cases hcodes
    have hreplaced : (before ++ new ++ after).mapM (fieldCode registry) =
        .ok (codesBefore ++ newCodes ++ codesAfter) := by
      rw [List.mapM_append, List.mapM_append, hbefore, hnew, hafter]
      rfl
    obtain ⟨w', hw', htext'⟩ :=
      exists_method (t.fields_withFields (before ++ new ++ after)) hreplaced
    exact ⟨codesBefore, oldCodes, codesAfter, w', hbefore, hold, hafter, htext, hw', htext'⟩

/-- A field of an enum that is in no registry. -/
def unknownField : Field where
  name := some "kind"
  type := some ⟨some "enum", some "Kind"⟩
  jsonName := some "kind"

/-- An order without its labels has the same code for all its other fields; with a field of an
unknown type behind the number it has none. -/
theorem method_concatenates_order : ∃ number state label extra,
    orderType.declaration.fields = some [number, state, label, extra] ∧
      (∃ w w' codesBefore codesAfter code,
        orderType.fromObjectMethod orderRegistry = .ok w ∧
          w.rendered = orderType.methodText (codesBefore ++ [code] ++ codesAfter) ∧
          (orderType.withFields [number, state, extra]).fromObjectMethod orderRegistry = .ok w' ∧
          w'.rendered = orderType.methodText (codesBefore ++ codesAfter)) ∧
      (orderType.withFields [number, some unknownField, label]).fromObjectMethod orderRegistry =
        .error (.unregistered (.name (some "Kind"))) := by
  have hok : orderType.fromObjectMethod orderRegistry =
      .ok { lines := (orderType.codeLines orderPlans).map (Writer.shift 0) } := by
    rw [fromObjectMethod_eq orderType orderRegistry hasPlainNames_order, plans_order]
    rfl
  refine ⟨_, _, _, _, rfl, ?_, ?_⟩
  · obtain ⟨-, -, -, hreplaced⟩ := method_concatenates orderType orderRegistry rfl
    obtain ⟨codesBefore, codes, codesAfter, w', -, hcodes, -, htext, hw', htext'⟩ :=
      hreplaced [_, _] [_] [_] [] _ [] rfl hok rfl
    rw [List.mapM_cons] at hcodes
    obtain ⟨code, -, hcodes⟩ := bind_eq_ok.1 hcodes
    cases hcodes
    exact ⟨_, w', codesBefore, codesAfter, code, hok, htext, hw', by simpa using htext'⟩
  · obtain ⟨hcomplete, -, -, -⟩ := method_concatenates orderType orderRegistry rfl
    obtain ⟨-, -, hfailed, -⟩ :=
      method_concatenates (orderType.withFields _) orderRegistry (fields_withFields ..)
    refine (hfailed _).2 ⟨[_], some unknownField, [_], rfl, ?_, rfl⟩
    intro other hother
    exact hcomplete.1 ⟨_, hok⟩ other (List.mem_cons.2 (.inl (List.mem_singleton.1 hother)))

end MessageType

end Schema

end Protogen
