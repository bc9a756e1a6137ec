import Protogen.Proofs.Field.Plan

/-!
# The code that is generated for a field

The generator writes the lines of the statement that carries out the plan of a field, and fails
exactly where there is no plan, for the same reason.

* `fill_mergeFormat` fills the template of the statement that merges a value.
* `mergeParsed_follows` is the code for one raw value, `generateMap_follows` that for a map.
* `generate_follows` puts them together for a field of any shape.
-/

set_option autoImplicit false

namespace Protogen

open Code Script

variable {f : Schema.Field} {registry : Registry} {kind : ValueKind}

/-! ## Templates -/

theorem mergeFormat_eq {shape : Shape} (h : f.shape = .ok shape) :
    FieldToParse.mergeFormat { field := f } =
      (failing .nullPart f.declaredName).map fun name =>
        FieldToParse.mergeCall FieldPlan.messageVariable name shape ++ "\x7b\x7d);" := by
  simp only [FieldToParse.mergeFormat, h, Schema.Field.declaredName]
  cases f.name <;> rfl

theorem isPlain_mergeCall {name : String} (shape : Shape) (h : Template.isPlain name.toList = true) :
    Template.isPlain
      (FieldToParse.mergeCall FieldPlan.messageVariable name shape).toList = true := by
  have hname := Naming.isPlain_pascalCase h
  cases shape <;>
    simp only [FieldToParse.mergeCall, Naming.setter, Naming.adder, Naming.mapGetter,
      String.toList_append, Template.isPlain_append, hname, and_true] <;> decide

theorem fill_mergeFormat {name : String} (shape : Shape) (value : String)
    (h : Template.isPlain name.toList = true) :
    Template.fill (FieldToParse.mergeCall FieldPlan.messageVariable name shape ++ "\x7b\x7d);") value
      = .ok (FieldToParse.mergeCall FieldPlan.messageVariable name shape ++ value ++ ");") := by
  have hsplit : "\x7b\x7d);" = "\x7b\x7d" ++ ");" := by decide
  rw [hsplit, ← String.append_assoc]
  exact Template.fill_hole value (isPlain_mergeCall shape h) (by decide)

/-! ## Converted values -/

theorem emits_convert {conversion : Conversion} (raw : String)
    (h : kind.conversion registry = .ok conversion) :
    Emits (FieldToParse.convert kind raw registry) (.ok valueVariable)
      [⟨0, letText ++ valueVariable ++ equalsText ++ conversion.text raw ++ ";"⟩] := by
  have hparsed : failing .unregistered (parseValue kind raw registry valueVariable) =
      .ok (bindTo valueVariable (conversion.text raw)) := by
    rw [parseValue, valueExpression_eq, h]
    rfl
  have hlines : Emits
      (Emission.lines [letText ++ valueVariable ++ equalsText ++ conversion.text raw ++ ";"])
      (.ok ()) [⟨0, letText ++ valueVariable ++ equalsText ++ conversion.text raw ++ ";"⟩] :=
    Emits.lines (by simp)
  have hdemand := Emits.demand (.ok (bindTo valueVariable (conversion.text raw)))
  rw [FieldToParse.convert, hparsed]
  exact hdemand.bind (hlines.bind (Emits.pure valueVariable))

theorem emits_convert_error {cause : Unregistered} (raw : String)
    (h : kind.conversion registry = .error cause) :
    Emits (FieldToParse.convert kind raw registry) (.error (.unregistered cause)) [] := by
  have hparsed : failing .unregistered (parseValue kind raw registry valueVariable) =
      .error (.unregistered cause) := by
    rw [parseValue, valueExpression_eq, h]
    rfl
  rw [FieldToParse.convert, hparsed]
  exact (Emits.demand _).bind_error

/-- The statement that merges a value, once its template is filled. -/
theorem emits_merge {p : FieldPlan} (value : Operand)
    (h : Template.isPlain p.name.toList = true) :
    Emits (FieldToParse.merge
      (FieldToParse.mergeCall FieldPlan.messageVariable p.name p.shape ++ "\x7b\x7d);") value.text)
      (.ok ()) (p.merge value).lines := by
  have hfill := fill_mergeFormat p.shape value.text h
  rw [FieldToParse.merge, hfill, FieldPlan.merge_lines]
  exact (Emits.demand (.ok (p.mergeText value.text))).bind (Emits.line (p.mergeText_ne value.text))

/-- A value is converted and merged unless its type is not registered. -/
theorem convertAndMerge_follows {plan : Conversion → FieldPlan} (raw : Access)
    (template : String)
    (h : ∀ conversion, kind.conversion registry = .ok conversion →
      (plan conversion).conversion = conversion ∧
        Emits (FieldToParse.merge template valueVariable) (.ok ())
          ((plan conversion).merge (.var valueVariable)).lines) :
    Follows (FieldToParse.convert kind raw.text registry >>= FieldToParse.merge template)
      (failing .unregistered (kind.conversion registry) >>= fun conversion => pure (plan conversion))
      fun p => linesOf (p.convertAndMerge raw) := by
  cases hc : kind.conversion registry with
  | error cause => exact Follows.error (emits_convert_error raw.text hc).bind_error
  | ok conversion =>
    obtain ⟨hplan, hmerge⟩ := h conversion hc
    have hlines : linesOf ((plan conversion).convertAndMerge raw) =
        [⟨0, letText ++ valueVariable ++ equalsText ++ conversion.text raw.text ++ ";"⟩] ++
          ((plan conversion).merge (.var valueVariable)).lines := by
      simp [FieldPlan.convertAndMerge, linesOf, Statement.lines, simpleLine, hplan]
    refine Follows.ok ?_
    rw [hlines]
    exact (emits_convert raw.text hc).bind hmerge

/-- Null is merged where it stands for no value. -/
theorem nullGuard_follows {plan : Except Failure FieldPlan} {body : Emission Unit} (raw : Access)
    {template text : String} (htext : text ≠ "")
    (hfill : Template.fill template "null" = .ok text)
    (hplan : ∀ p, plan = .ok p → p.kind = kind ∧ p.mergeText "null" = text)
    (hbody : Follows body plan fun p => linesOf (p.convertAndMerge raw)) :
    Follows (nullGuard kind raw.text template body) plan fun p => linesOf (p.guarded raw) := by
  unfold nullGuard
  split
  · rename_i hguard
    rw [hfill]
    have helse : Follows (Emission.ifBlock (raw.text ++ " === null")
      (do Emission.line text; Emission.enterElse; body)) plan _ := Follows.ifElse htext hbody
    refine helse.congr (g := id) ?_ ?_
    · cases plan <;> rfl
    · intro p hp
      obtain ⟨hkind, hmerge⟩ := hplan p hp
      have hnull : Writer.shift 1 ⟨0, text⟩ = ⟨1, text⟩ := Writer.shift_of_ne 1 0 htext
      simp only [id, FieldPlan.guarded, hkind, if_pos hguard, linesOf, Statement.lines,
        FieldPlan.merge_lines, Operand.text, hmerge]
      simp [hnull, openingLine, closingLine, otherwiseLine, whenHeader, Test.text, Comparison.text,
        ifText, isNullText]
  · rename_i hguard
    refine hbody.congr (g := id) ?_ ?_
    · cases plan <;> rfl
    · intro p hp
      obtain ⟨hkind, -⟩ := hplan p hp
      simp only [id, FieldPlan.guarded, hkind, if_neg hguard]

/-- The code for one raw value of a field that is no map. -/
theorem mergeParsed_follows (raw : Access) (key : String) {holding : Holding}
    (hshape : f.shape = .ok holding.shape)
    (hname : f.hasPlainName = true) :
    Follows (FieldToParse.mergeParsed { field := f } raw.text registry)
      (FieldPlan.ofValues f registry key holding) fun p => linesOf (p.guarded raw) := by
  unfold FieldToParse.mergeParsed FieldPlan.ofValues
  refine Follows.demand fun kind _ => ?_
  rw [mergeFormat_eq hshape]
  refine Follows.demand_map fun name hdeclared => ?_
  have hplain : Template.isPlain name.toList = true :=
    Schema.Field.isPlain_of_declaredName hname (failing_eq_ok.1 hdeclared)
  -- the plan, up to its conversion
  have hmerge : ∀ conversion, Emits (FieldToParse.merge
      (FieldToParse.mergeCall FieldPlan.messageVariable name holding.shape ++ "\x7b\x7d);")
        valueVariable) (.ok ())
      ((FieldPlan.mk name key kind conversion holding).merge (.var valueVariable)).lines :=
    fun conversion =>
      emits_merge (p := FieldPlan.mk name key kind conversion holding) (.var valueVariable) hplain
  refine nullGuard_follows raw ?_ (fill_mergeFormat holding.shape "null" hplain) ?_
    (convertAndMerge_follows raw _ fun conversion _ => ⟨rfl, hmerge conversion⟩)
  · simp
  · intro p hp
    obtain ⟨conversion, -, hp⟩ := bind_eq_ok.1 hp
    cases hp
    exact ⟨rfl, rfl⟩

/-! ## Shapes -/

theorem rawValue_eq (f : Schema.Field) :
    failing .nullPart (FieldToParse.rawValue { field := f }) =
      (failing .nullPart f.jsonKey).map fun key => (Access.property "obj" key).text := by
  rw [FieldToParse.rawValue, failing_map]
  rfl

/-- The lines of a condition. -/
theorem when_lines (test : Test) (body : List Statement) :
    (Statement.when test body).lines =
      ⟨0, "if (" ++ test.text ++ ")" ++ " \x7b"⟩ :: (linesOf body).map (Writer.shift 1) ++
        [⟨0, "\x7d"⟩] := by
  simp [Statement.lines, blockLines, openingLine, closingLine, whenHeader, ifText]

theorem present_text (raw : Access) :
    (FieldPlan.present raw).text = FieldToParse.isPresent raw.text := by
  have hjoin : isDefinedText ++ bothText = " !== undefined && " := by decide
  have hfirst : raw.text ++ isDefinedText ++ bothText = raw.text ++ " !== undefined && " := by
    rw [String.append_assoc, hjoin]
  simp only [FieldPlan.present, Test.text, Comparison.text, FieldToParse.isPresent]
  rw [hfirst, ← String.append_assoc]
  rfl

theorem entry_text (object key : String) :
    (Access.property object key).text ++ "[" ++ FieldToParse.propertyName ++ "]" =
      (Access.entry object key).text := by
  have hentry : "[" ++ (FieldToParse.propertyName ++ "]") = entryText := by decide
  rw [String.append_assoc, String.append_assoc, hentry]
  rfl

theorem owns_text (object : Access) :
    (Test.one (.owns object)).text = "Object.prototype.hasOwnProperty.call(" ++ object.text ++ ", " ++
      FieldToParse.propertyName ++ ")" := by
  simp only [Test.text, Comparison.text, ownsText, ownsEnd, String.append_assoc]

/-- The lines of a loop over a list. -/
theorem forEach_lines (list : Access) (body : List Statement) :
    (Statement.forEach list FieldToParse.listItem body).lines =
      ⟨0, list.text ++ ".forEach((" ++ FieldToParse.listItem ++ ", index, array) =>" ++ " \x7b"⟩ ::
        (linesOf body).map (Writer.shift 1) ++ [⟨0, "\x7d" ++ ");"⟩] := rfl

/-- The lines of a loop over an object. -/
theorem forIn_lines (object : Access) (body : List Statement) :
    (Statement.forIn object body).lines =
      ⟨0, "for (let " ++ FieldToParse.propertyName ++ " in " ++ object.text ++ ")" ++ " \x7b"⟩ ::
        (linesOf body).map (Writer.shift 1) ++ [⟨0, "\x7d" ++ ""⟩] := rfl

theorem generateSingular_follows (registry : Registry) (hshape : f.shape = .ok .singular)
    (hname : f.hasPlainName = true) :
    Follows (FieldToParse.generateSingular { field := f } registry)
      (failing .nullPart f.jsonKey >>= fun key => FieldPlan.ofValues f registry key .one)
      fun p => p.statement.lines := by
  unfold FieldToParse.generateSingular
  rw [rawValue_eq]
  refine Follows.demand_map fun key _ => ?_
  have hparsed : Follows (FieldToParse.mergeParsed { field := f }
      (Access.property "obj" key).text registry) (FieldPlan.ofValues f registry key .one) _ :=
    mergeParsed_follows (.property "obj" key) key hshape hname
  refine hparsed.ifBlock.congr (g := id) ?_ ?_
  · cases FieldPlan.ofValues f registry key .one <;> rfl
  · intro p hp
    obtain ⟨hkey, hholding⟩ := FieldPlan.of_ofValues hp
    subst hkey
    simp only [id, FieldPlan.statement, hholding, when_lines]
    rfl

theorem generateRepeated_follows (registry : Registry) (hshape : f.shape = .ok .repeated)
    (hname : f.hasPlainName = true) :
    Follows (FieldToParse.generateRepeated { field := f } registry)
      (failing .nullPart f.jsonKey >>= fun key => FieldPlan.ofValues f registry key .list)
      fun p => p.statement.lines := by
  unfold FieldToParse.generateRepeated
  rw [rawValue_eq]
  refine Follows.demand_map fun key _ => ?_
  have hparsed : Follows (FieldToParse.mergeParsed { field := f }
      (Access.var FieldToParse.listItem).text registry) (FieldPlan.ofValues f registry key .list) _ :=
    mergeParsed_follows (.var FieldToParse.listItem) key hshape hname
  refine hparsed.block.ifBlock.congr (g := id) ?_ ?_
  · cases FieldPlan.ofValues f registry key .list <;> rfl
  · intro p hp
    obtain ⟨hkey, hholding⟩ := FieldPlan.of_ofValues hp
    subst hkey
    simp only [id, FieldPlan.statement, hholding, when_lines, present_text, forEach_lines, linesOf,
      List.append_nil]
    rfl

/-- The code for one entry of a map. -/
theorem mergeEntry_follows (key : String) (keyConversion : Conversion)
    (hshape : f.shape = .ok .map) (hname : f.hasPlainName = true) :
    Follows
      (do
        Emission.lines (bindTo mapKeyVariable
          (keyConversion.text FieldToParse.propertyName)).code
        let value ← FieldToParse.convert kind (Access.entry "obj" key).text registry
        FieldToParse.merge
          (← Emission.demand (FieldToParse.mergeFormat { field := f })) value)
      (do
        let conversion ← failing .unregistered (kind.conversion registry)
        let name ← failing .nullPart f.declaredName
        pure (FieldPlan.mk name key kind conversion (.map keyConversion)))
      fun p => linesOf (.bind mapKeyVariable keyConversion (.var FieldToParse.propertyName) ::
        p.convertAndMerge (.entry "obj" key)) := by
  have hkey : Emits
      (Emission.lines (bindTo mapKeyVariable (keyConversion.text FieldToParse.propertyName)).code)
      (.ok ()) (Statement.bind mapKeyVariable keyConversion (.var FieldToParse.propertyName)).lines :=
    Emits.lines (by simp [bindTo])
  cases hc : kind.conversion registry with
  | error cause =>
    exact Follows.error (hkey.bind (emits_convert_error (Access.entry "obj" key).text hc).bind_error)
  | ok conversion =>
    have hmerge : Follows
        (Emission.demand (FieldToParse.mergeFormat { field := f }) >>= fun template =>
          FieldToParse.merge template valueVariable)
        (failing .nullPart f.declaredName >>= fun name =>
          pure (FieldPlan.mk name key kind conversion (.map keyConversion)))
        fun p => (p.merge (.var valueVariable)).lines := by
      rw [mergeFormat_eq hshape]
      refine Follows.demand_map fun name hdeclared => Follows.ok ?_
      exact emits_merge (p := FieldPlan.mk name key kind conversion (.map keyConversion))
        (.var valueVariable)
        (Schema.Field.isPlain_of_declaredName hname (failing_eq_ok.1 hdeclared))
    have hentry : Follows
        (FieldToParse.convert kind (Access.entry "obj" key).text registry >>= fun value =>
          Emission.demand (FieldToParse.mergeFormat { field := f }) >>= fun template =>
            FieldToParse.merge template value) _ _ :=
      hmerge.after (emits_convert (Access.entry "obj" key).text hc)
    refine (hentry.after hkey).congr (g := id) ?_ ?_
    · cases f.declaredName <;> rfl
    · intro p hp
      obtain ⟨name, -, hp⟩ := bind_eq_ok.1 hp
      cases hp
      simp [FieldPlan.convertAndMerge, linesOf, Statement.lines, simpleLine]

theorem generateMap_follows (registry : Registry) (hshape : f.shape = .ok .map)
    (hname : f.hasPlainName = true) :
    Follows (FieldToParse.generateMap { field := f } registry)
      (failing .nullPart f.jsonKey >>= fun key => FieldPlan.ofMap f registry key)
      fun p => p.statement.lines := by
  unfold FieldToParse.generateMap
  rw [rawValue_eq]
  refine Follows.demand_map fun key _ => ?_
  unfold FieldPlan.ofMap
  refine Follows.demand fun kind _ => ?_
  refine Follows.demand fun keyKind _ => ?_
  have hkey : failing .inconsistent
      (parseKey keyKind FieldToParse.propertyName mapKeyVariable) =
        (failing .inconsistent keyKind.keyConversion).map fun conversion =>
          bindTo mapKeyVariable (conversion.text FieldToParse.propertyName) := by
    rw [parseKey, keyExpression_eq]
    cases keyKind.keyConversion <;> rfl
  rw [hkey]
  refine Follows.demand_map fun keyConversion _ => ?_
  rw [entry_text]
  have hentry : Follows _
      (do
        let conversion ← failing .unregistered (kind.conversion registry)
        let name ← failing .nullPart f.declaredName
        pure (FieldPlan.mk name key kind conversion (.map keyConversion))) _ :=
    mergeEntry_follows key keyConversion hshape hname
  refine hentry.ifBlock.block.ifBlock.congr (g := id) ?_ ?_
  · cases kind.conversion registry with
    | error cause => rfl
    | ok conversion => cases f.declaredName <;> rfl
  · intro p hp
    obtain ⟨conversion, -, hp⟩ := bind_eq_ok.1 hp
    obtain ⟨name, -, hp⟩ := bind_eq_ok.1 hp
    cases hp
    simp only [id, FieldPlan.statement, when_lines, present_text, forIn_lines, owns_text, linesOf,
      List.append_nil]
    rfl

/-- The generator writes the statement of the plan, and fails exactly where there is none. -/
theorem generate_follows (registry : Registry) (hname : f.hasPlainName = true) :
    Follows (FieldToParse.generate { field := f } registry) (FieldPlan.of f registry)
      fun p => p.statement.lines := by
  unfold FieldToParse.generate FieldPlan.of
  refine Follows.demand fun shape hshape => ?_
  cases shape with
  | singular => exact generateSingular_follows registry (failing_eq_ok.1 hshape) hname
  | repeated => exact generateRepeated_follows registry (failing_eq_ok.1 hshape) hname
  | map => exact generateMap_follows registry (failing_eq_ok.1 hshape) hname

end Protogen
