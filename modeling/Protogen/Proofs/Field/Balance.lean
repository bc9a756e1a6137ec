import Protogen.Proofs.Code.Balance
import Protogen.Proofs.Field.Generate
import Protogen.Proofs.Template.Hole

/-!
# The lines of the code of a field

The generator of a field, run on any writer, writes balanced lines, whatever the field, the
registry and the variables are and wherever it fails.

* `CodeLine` lists the lines that are no headers or ends of blocks, `CodeHeader` the headers.
* `CodeLine.eq_semicolon`: each of the former ends in a semicolon, since a template is filled at its
  end, so that it opens no block; nor does it look like a closing line.
* `balances_generate` goes through the code of a field of any shape.
-/

set_option autoImplicit false

namespace Protogen

open Code

namespace Schema

theorem noScopeFault_kindOf (t : Option TypeRef) : NoScopeFault (kindOf t) := by
  unfold kindOf
  refine .bind (.failing (by simp) _) fun t => .failing (by simp) _

namespace Field

variable (f : Field)

theorem noScopeFault_elementKind : NoScopeFault f.elementKind := by
  unfold elementKind
  split
  · exact noScopeFault_kindOf _
  · rintro fault ⟨⟩
  · exact .failing (by simp) _

theorem noScopeFault_keyKind : NoScopeFault f.keyKind := by
  unfold keyKind
  split
  · rintro fault ⟨⟩
  · refine .bind (noScopeFault_kindOf _) fun kind => ?_
    split
    · split
      · rintro fault ⟨⟩
      · exact .ok _
    · rintro fault ⟨⟩

end Field

end Schema

namespace FieldToParse

variable {f : FieldToParse} {registry : Registry} {text : String}

/-! ## Lines and headers -/

/-- The values that the code of a field converts. -/
inductive Raw (f : FieldToParse) : String → Prop
  | value {raw : String} (h : f.rawValue = .ok raw) : Raw f raw
  | item : Raw f listItem
  | entry {raw : String} (h : f.rawValue = .ok raw) : Raw f (raw ++ "[" ++ propertyName ++ "]")

/-- The lines of the code of a field that neither open nor close a block. -/
inductive CodeLine (f : FieldToParse) (registry : Registry) : String → Prop
  | value {kind : ValueKind} {raw expression : String} (hraw : f.Raw raw)
      (hkind : f.field.elementKind = .ok kind)
      (h : valueExpression kind raw registry = .ok expression) :
      CodeLine f registry ("let " ++ valueVariable ++ " = " ++ expression ++ ";")
  | key {kind : ValueKind} {expression : String}
      (h : keyExpression kind propertyName = .ok expression) :
      CodeLine f registry ("let " ++ mapKeyVariable ++ " = " ++ expression ++ ";")
  | merge {template value text : String} (htemplate : f.mergeFormat = .ok template)
      (hvalue : value = "null" ∨ value = valueVariable)
      (h : Template.fill template value = .ok text) : CodeLine f registry text

/-- The headers of the blocks in the code of a field. -/
inductive CodeHeader (f : FieldToParse) : String → Prop
  | defined {raw : String} (h : f.rawValue = .ok raw) :
      CodeHeader f ("if (" ++ isDefined raw ++ ")")
  | present {raw : String} (h : f.rawValue = .ok raw) :
      CodeHeader f ("if (" ++ isPresent raw ++ ")")
  | isNull {raw : String} (h : f.Raw raw) : CodeHeader f ("if (" ++ (raw ++ " === null") ++ ")")
  | forEach {raw : String} (h : f.rawValue = .ok raw) :
      CodeHeader f (raw ++ ".forEach((" ++ listItem ++ ", index, array) =>")
  | forIn {raw : String} (h : f.rawValue = .ok raw) :
      CodeHeader f ("for (let " ++ propertyName ++ " in " ++ raw ++ ")")
  | owns {raw : String} (h : f.rawValue = .ok raw) :
      CodeHeader f ("if (" ++
        ("Object.prototype.hasOwnProperty.call(" ++ raw ++ ", " ++ propertyName ++ ")") ++ ")")

theorem mergeFormat_eq_ok {template : String} (h : f.mergeFormat = .ok template) :
    ∃ shape name, f.field.shape = .ok shape ∧ f.field.name = some name ∧
      template = mergeCall f.target name shape ++ "\x7b\x7d);" := by
  obtain ⟨shape, hshape, h⟩ := bind_eq_ok.1 h
  split at h
  · cases h
  · rename_i name hname
    cases h
    exact ⟨shape, name, failing_eq_ok.1 hshape, hname, rfl⟩

/-- The statement that merges a value: nothing of the template stands behind the value. -/
theorem merge_eq {template value : String} (htemplate : f.mergeFormat = .ok template)
    (h : Template.fill template value = .ok text) :
    ∃ shape name front, f.field.name = some name ∧
      List.Sublist front (mergeCall f.target name shape).toList ∧
      (∀ plain, Template.isPlain plain = true → plain <+: (mergeCall f.target name shape).toList →
        plain <+: front) ∧
      text = String.ofList front ++ value ++ ");" := by
  obtain ⟨shape, name, -, hname, rfl⟩ := mergeFormat_eq_ok htemplate
  have hsplit : mergeCall f.target name shape ++ "\x7b\x7d);" =
      mergeCall f.target name shape ++ "\x7b\x7d" ++ ");" := by
    rw [String.append_assoc]
    rfl
  rw [hsplit] at h
  obtain ⟨front, hfront, hbegin, rfl⟩ := Template.fill_trailing_hole (by decide) (by decide) h
  exact ⟨shape, name, front, hname, hfront, hbegin, rfl⟩

theorem CodeLine.eq_semicolon (h : f.CodeLine registry text) : ∃ front, text = front ++ ";" := by
  cases h with
  | value => exact ⟨_, rfl⟩
  | key => exact ⟨_, rfl⟩
  | @merge template value text htemplate _ h =>
    obtain ⟨shape, name, front, -, -, -, rfl⟩ := merge_eq htemplate h
    have hend : ");" = ")" ++ ";" := by decide
    refine ⟨String.ofList front ++ value ++ ")", ?_⟩
    rw [hend, ← String.append_assoc]

theorem CodeLine.ne_empty (h : f.CodeLine registry text) : text ≠ "" := by
  obtain ⟨front, rfl⟩ := h.eq_semicolon
  simp

theorem CodeLine.not_opensBlock (h : f.CodeLine registry text) : ¬opensBlock text := by
  obtain ⟨front, rfl⟩ := h.eq_semicolon
  rintro ⟨before, hbefore⟩
  have hlast := congrArg List.getLast? hbefore
  simp at hlast

/-- The operand of a merged value tells the statement from a closing line. -/
theorem CodeLine.not_closesBlock (h : f.CodeLine registry text) : ¬closesBlock text := by
  intro hcloses
  cases h with
  | value => simpa using head?_of_closesBlock hcloses
  | key => simpa using head?_of_closesBlock hcloses
  | @merge template value text htemplate hvalue h =>
    obtain ⟨shape, name, front, -, -, -, rfl⟩ := merge_eq htemplate h
    have hend : "l);".toList <:+ (String.ofList front ++ value ++ ");").toList ∨
        "e);".toList <:+ (String.ofList front ++ value ++ ");").toList := by
      rcases hvalue with rfl | rfl
      · exact .inl ⟨front ++ ['n', 'u', 'l'], by simp⟩
      · exact .inr ⟨front ++ ['v', 'a', 'l', 'u'], by simp [valueVariable]⟩
    rcases hcloses with heq | ⟨suffix, hmem, heq⟩
    · have hnone : ¬("l);".toList <:+ "\x7d else \x7b".toList ∨
          "e);".toList <:+ "\x7d else \x7b".toList) := by decide
      rw [heq] at hend
      exact hnone hend
    · have hnone : ∀ suffix ∈ closingSuffixes, ¬("l);".toList <:+ ("\x7d" ++ suffix).toList ∨
          "e);".toList <:+ ("\x7d" ++ suffix).toList) := by decide
      rw [heq] at hend
      exact hnone suffix hmem hend

/-! ## The code -/

variable {kind : ValueKind} {raw template : String} {body : Emission Unit}

theorem noScopeFault_rawValue : NoScopeFault (failing .nullPart f.rawValue) := .failing (by simp) _

theorem noScopeFault_mergeFormat : NoScopeFault f.mergeFormat := by
  unfold mergeFormat
  refine .bind (.failing (by simp) _) fun shape => ?_
  split
  · rintro fault ⟨⟩
  · exact .ok _

theorem noScopeFault_fill (value : String) :
    NoScopeFault (failing .template (Template.fill template value)) := .failing (by simp) _

theorem balances_merge {value : String} (htemplate : f.mergeFormat = .ok template)
    (hvalue : value = "null" ∨ value = valueVariable) :
    Balances (f.CodeLine registry) f.CodeHeader (merge template value) := by
  refine .bind_demand (noScopeFault_fill value) fun text htext => ?_
  have hline : f.CodeLine registry text := .merge htemplate hvalue (failing_eq_ok.1 htext)
  exact .line hline.ne_empty hline

theorem balances_nullGuard (hraw : f.Raw raw) (htemplate : f.mergeFormat = .ok template)
    (h : Balances (f.CodeLine registry) f.CodeHeader body) :
    Balances (f.CodeLine registry) f.CodeHeader (nullGuard kind raw template body) := by
  unfold nullGuard
  split
  · -- where the template cannot be filled, the alternative is not entered
    cases htext : Template.fill template "null" with
    | error fault =>
      refine .ifBlock (.isNull hraw) (.bind_demand (.failing (by simp) _) ?_)
      rintro text ⟨⟩
    | ok text =>
      have hline : f.CodeLine registry text := .merge htemplate (.inl rfl) htext
      exact .ifElse (.isNull hraw) hline.ne_empty hline h
  · exact h

/-- A value is converted into the variable that is merged. -/
theorem balances_convert {k : String → Emission Unit} (hraw : f.Raw raw)
    (hkind : f.field.elementKind = .ok kind)
    (hk : Balances (f.CodeLine registry) f.CodeHeader (k valueVariable)) :
    Balances (f.CodeLine registry) f.CodeHeader (convert kind raw registry >>= k) := by
  cases hc : kind.conversion registry with
  | error cause =>
    refine ⟨_, _, (emits_convert_error raw hc).bind_error, .nil 0, ?_⟩
    rintro fault ⟨⟩
  | ok conversion =>
    have hexpression : valueExpression kind raw registry = .ok (conversion.text raw) := by
      rw [valueExpression_eq, hc]
      rfl
    have hemits := emits_convert raw hc
    have hline : f.CodeLine registry _ := .value hraw hkind hexpression
    have hconvert : Balances (f.CodeLine registry) f.CodeHeader (convert kind raw registry) :=
      ⟨_, _, hemits, .plain 0 hline, .ok _⟩
    refine hconvert.bind fun a ls h => ?_
    obtain ⟨heq, -⟩ := h.result_unique hemits
    cases heq
    exact hk

theorem balances_mergeParsed (hraw : f.Raw raw) :
    Balances (f.CodeLine registry) f.CodeHeader (f.mergeParsed raw registry) := by
  refine .bind_demand f.field.noScopeFault_elementKind fun kind hkind => ?_
  refine .bind_demand noScopeFault_mergeFormat fun template htemplate => ?_
  exact balances_nullGuard hraw htemplate
    (balances_convert hraw hkind (balances_merge htemplate (.inr rfl)))

theorem balances_generateSingular :
    Balances (f.CodeLine registry) f.CodeHeader (f.generateSingular registry) := by
  refine .bind_demand noScopeFault_rawValue fun raw h => ?_
  have hraw : f.rawValue = .ok raw := failing_eq_ok.1 h
  exact .ifBlock (.defined hraw) (balances_mergeParsed (.value hraw))

theorem balances_generateRepeated :
    Balances (f.CodeLine registry) f.CodeHeader (f.generateRepeated registry) := by
  refine .bind_demand noScopeFault_rawValue fun raw h => ?_
  have hraw : f.rawValue = .ok raw := failing_eq_ok.1 h
  exact .ifBlock (.present hraw)
    (.block (.forEach hraw) (by decide) (balances_mergeParsed .item))

/-- The loop over the entries of a map. -/
theorem balances_entries {key : Parsed} (hraw : f.rawValue = .ok raw)
    (hkind : f.field.elementKind = .ok kind) (hkey : ∀ text ∈ key.code, f.CodeLine registry text) :
    Balances (f.CodeLine registry) f.CodeHeader
      (Emission.block ("for (let " ++ propertyName ++ " in " ++ raw ++ ")") "" do
        Emission.ifBlock
            ("Object.prototype.hasOwnProperty.call(" ++ raw ++ ", " ++ propertyName ++ ")") do
          Emission.lines key.code
          let value ← convert kind (raw ++ "[" ++ propertyName ++ "]") registry
          merge (← Emission.demand f.mergeFormat) value) := by
  refine .block (.forIn hraw) (by decide) (.ifBlock (.owns hraw) ?_)
  refine .bind (.lines fun text htext => ⟨(hkey text htext).ne_empty, hkey text htext⟩)
    fun _ _ _ => balances_convert (.entry hraw) hkind ?_
  exact .bind_demand noScopeFault_mergeFormat fun template htemplate =>
    balances_merge htemplate (.inr rfl)

theorem codeLine_key {keyKind : ValueKind} {key : Parsed}
    (hkey : parseKey keyKind propertyName mapKeyVariable = .ok key) :
    ∀ text ∈ key.code, f.CodeLine registry text := by
  obtain ⟨expression, hexpression, rfl⟩ := map_eq_ok.1 hkey
  simpa [bindTo] using CodeLine.key hexpression

theorem balances_generateMap :
    Balances (f.CodeLine registry) f.CodeHeader (f.generateMap registry) := by
  refine .bind_demand noScopeFault_rawValue fun raw h => ?_
  have hraw : f.rawValue = .ok raw := failing_eq_ok.1 h
  refine .bind_demand f.field.noScopeFault_elementKind fun kind hkind => ?_
  refine .bind_demand f.field.noScopeFault_keyKind fun keyKind _ => ?_
  refine .bind_demand (.failing (by simp) _) fun key hkey => ?_
  exact .ifBlock (.present hraw) (balances_entries hraw hkind (codeLine_key (failing_eq_ok.1 hkey)))

/-- The code of a field is balanced, whatever becomes of it. -/
theorem balances_generate :
    Balances (f.CodeLine registry) f.CodeHeader (f.generate registry) := by
  refine .bind_demand (.failing (by simp) _) fun shape _ => ?_
  cases shape with
  | map => exact balances_generateMap
  | repeated => exact balances_generateRepeated
  | singular => exact balances_generateSingular

end FieldToParse

end Protogen
