import Protogen.Proofs.Field.Plan
import Protogen.Proofs.Schema.Types

/-!
# Fields that cannot be parsed

* `Field.IsInconsistent` says, in terms of the schema alone, for which fields no code is written.
* `FieldPlan.exists_of_iff` makes a plan for all other fields, and `FieldPlan.onlyInconsistent_of`
  names the causes for which there is none.
-/

set_option autoImplicit false

namespace Protogen

open Schema

/-! ## Causes -/

/-- Whether the cause of a failure lies in the schema: an inconsistency or a type that is not
known. -/
def Failure.IsInconsistency : Failure → Prop
  | .inconsistent _ => True
  | .unregistered _ => True
  | _ => False

/-- A computation that fails for causes in the schema only. -/
def OnlyInconsistent {α : Type} (r : Except Failure α) : Prop :=
  ∀ failure, r = .error failure → failure.IsInconsistency

namespace OnlyInconsistent

variable {α β : Type} {r : Except Failure α}

theorem ok (a : α) : OnlyInconsistent (.ok a) := by
  intro failure h
  cases h

theorem inconsistent (r : Except Inconsistency α) : OnlyInconsistent (failing .inconsistent r) := by
  intro failure h
  obtain ⟨cause, -, rfl⟩ := failing_eq_error.1 h
  trivial

theorem unregistered (r : Except Unregistered α) : OnlyInconsistent (failing .unregistered r) := by
  intro failure h
  obtain ⟨cause, -, rfl⟩ := failing_eq_error.1 h
  trivial

theorem bind {k : α → Except Failure β} (hr : OnlyInconsistent r)
    (hk : ∀ a, r = .ok a → OnlyInconsistent (k a)) : OnlyInconsistent (r >>= k) := by
  intro failure h
  rcases bind_eq_error.1 h with h | ⟨a, ha, h⟩
  · exact hr failure h
  · exact hk a ha failure h

theorem map {g : α → β} (hr : OnlyInconsistent r) : OnlyInconsistent (r.map g) := by
  intro failure h
  cases r with
  | error cause =>
    cases h
    exact hr _ rfl
  | ok a => cases h

theorem mapM {f : α → Except Failure β} {items : List α}
    (h : ∀ a ∈ items, OnlyInconsistent (f a)) : OnlyInconsistent (items.mapM f) := by
  intro failure herror
  obtain ⟨a, ha, hfailed⟩ := exists_of_mapM_eq_error herror
  exact h a ha failure hfailed

end OnlyInconsistent

/-! ## Types of values and keys -/

namespace Schema

namespace TypeRef

/-- Whether a type is that of a scalar. -/
def isScalar (t : TypeRef) : Bool := t.name.any scalarTypes.contains

/-- Whether a type refers to an enum or a message by its name. -/
def isReference (t : TypeRef) : Bool :=
  (t.name == some "enum" || t.name == some "message") && isNamed t.typeName

/-- The name of the type that is referred to, without its leading dots. -/
def target (t : TypeRef) : String := Text.dropLeading '.' (shownName t.typeName)

/-- The scalar types that keys may have. -/
def keyTypes : List String := longTypes ++ intTypes ++ ["bool", "string"]

/-- Whether a type is that of keys. -/
def isKey (t : TypeRef) : Bool := t.name.any keyTypes.contains

end TypeRef

/-- The type of the values of a field; for a map, that of the values of its entries. -/
def Field.valueType? (f : Field) : Option TypeRef :=
  match f.map with
  | some entry => entry.value
  | none => f.type

/-- A field for which no code can be written, in a schema that knows some names of types. -/
inductive Field.IsInconsistent (Knows : String → Prop) (f : Field) : Prop
  /-- neither a type nor a map -/
  | untyped (htype : f.type = none) (hmap : f.map = none)
  /-- values that are neither scalars nor of a type that is named -/
  | value {t : TypeRef} (h : f.valueType? = some t) (hscalar : t.isScalar = false)
    (hreference : t.isReference = false)
  /-- values of a type that is not known -/
  | unknown {t : TypeRef} (h : f.valueType? = some t) (hreference : t.isReference = true)
    (hknown : ¬Knows t.target)
  /-- keys that are neither integers nor truth values nor texts -/
  | key {entry : MapEntry} {t : TypeRef} (hmap : f.map = some entry) (hkey : entry.key = some t)
    (h : t.isKey = false)

end Schema

/-! ## Kinds -/

namespace ValueKind

variable {t : TypeRef} {registry : Registry}

theorem isScalar_iff : t.isScalar = true ↔ ∃ scalar, t.name = some scalar ∧ scalar ∈ scalarTypes := by
  unfold TypeRef.isScalar
  cases t.name <;> simp

theorem isReference_of_isScalar (h : t.isScalar = true) : t.isReference = false := by
  have hkeywords : "enum" ∉ scalarTypes ∧ "message" ∉ scalarTypes := by decide +kernel
  obtain ⟨scalar, hname, hmem⟩ := isScalar_iff.1 h
  have henum : scalar ≠ "enum" := by
    rintro rfl
    exact hkeywords.1 hmem
  have hmessage : scalar ≠ "message" := by
    rintro rfl
    exact hkeywords.2 hmem
  simp [TypeRef.isReference, hname, henum, hmessage]

/-- No reference is taken for a scalar. -/
theorem ofType_eq_primitive_iff {scalar : String} :
    ofType t = .ok (.primitive scalar) ↔ t.name = some scalar ∧ scalar ∈ scalarTypes := by
  unfold ofType
  cases hname : t.name with
  | none => simp
  | some name =>
    by_cases hmem : name ∈ scalarTypes
    · simp only [List.contains_iff_mem, hmem, if_true, Except.ok.injEq, primitive.injEq,
        Option.some.injEq]
      constructor
      · rintro rfl
        exact ⟨rfl, hmem⟩
      · exact fun h => h.1
    · have hreference : ∀ keyword, ofReference keyword t.typeName ≠ .ok (.primitive scalar) := by
        intro keyword h
        simp only [ofReference] at h
        split at h
        · split at h
          · cases h
          · split at h <;> cases h
        · cases h
      simp only [List.contains_iff_mem, hmem, if_false, Option.some.injEq]
      constructor
      · intro h
        split at h
        · exact absurd h (hreference name)
        · cases h
      · rintro ⟨rfl, hscalar⟩
        exact absurd hscalar hmem

/-- The conversion of the values of a type that is referred to needs its entry. -/
theorem ofType_of_isReference (h : t.isReference = true) :
    ∃ kind, ofType t = .ok kind ∧ kind.keyConversion = .error (.keyKind kind.text) ∧
      ∀ registry : Registry, (∃ conversion, kind.conversion registry = .ok conversion) ↔
        ∃ entry, registry.lookup (some t.target) = .ok entry := by
  have hmap : ∀ {r : Except Unregistered Entry} {g : Entry → Script.Conversion},
      (∃ conversion, r.map g = .ok conversion) ↔ ∃ entry, r = .ok entry := by
    intro r g
    cases r <;> simp [Except.map]
  have hkeywords : "enum" ∉ scalarTypes ∧ "message" ∉ scalarTypes := by decide +kernel
  simp only [TypeRef.isReference, Bool.and_eq_true, Bool.or_eq_true, beq_iff_eq] at h
  obtain ⟨hkeyword, hnamed⟩ := h
  rcases hkeyword with hname | hname
  · refine ⟨.enum t.target, ?_, rfl, fun registry => hmap⟩
    simp [ofType, hname, hkeywords, ofReference, hnamed, TypeRef.target]
  · by_cases hdynamic : t.target = dynamicValueType
    · refine ⟨.dynamic t.target, ?_, rfl, fun registry => hmap⟩
      simp only [TypeRef.target] at hdynamic
      simp [ofType, hname, hkeywords, ofReference, hnamed, TypeRef.target, hdynamic]
    · refine ⟨.message t.target, ?_, rfl, fun registry => hmap⟩
      simp only [TypeRef.target] at hdynamic
      simp [ofType, hname, hkeywords, ofReference, hnamed, TypeRef.target, hdynamic]

theorem ofType_eq_error (hscalar : t.isScalar = false) (hreference : t.isReference = false) :
    ∃ cause, ofType t = .error cause := by
  unfold ofType
  cases hname : t.name with
  | none => exact ⟨_, rfl⟩
  | some name =>
    simp only [TypeRef.isScalar, hname, Option.any_some] at hscalar
    simp only [hscalar, Bool.false_eq_true, if_false]
    split
    · rename_i hkeyword
      have hnamed : isNamed t.typeName = false := by
        simp only [Bool.or_eq_true, decide_eq_true_eq] at hkeyword
        simp only [TypeRef.isReference, hname, Bool.and_eq_false_iff, Bool.or_eq_false_iff,
          beq_eq_false_iff_ne, ne_eq, Option.some.injEq] at hreference
        rcases hreference with hneither | hnamed
        · exact absurd hkeyword (not_or.2 hneither)
        · exact hnamed
      exact ⟨.missingTypeName name, by simp [ofReference, hnamed]⟩
    · exact ⟨_, rfl⟩

/-- Values can be converted if they are scalars or of a known type. -/
theorem exists_conversion_iff {Knows : String → Prop}
    (hknows : ∀ name, (∃ entry, registry.lookup (some name) = .ok entry) ↔ Knows name) :
    (∃ kind, ofType t = .ok kind ∧ ∃ conversion, kind.conversion registry = .ok conversion) ↔
      t.isScalar = true ∨ t.isReference = true ∧ Knows t.target := by
  cases hscalar : t.isScalar with
  | true =>
    obtain ⟨scalar, hscalar⟩ := isScalar_iff.1 hscalar
    simp [ofType_eq_primitive_iff.2 hscalar, conversion]
  | false =>
    cases hreference : t.isReference with
    | true =>
      obtain ⟨kind, hkind, -, hconversion⟩ := ofType_of_isReference hreference
      simp [hkind, hconversion, hknows]
    | false =>
      obtain ⟨cause, hcause⟩ := ofType_eq_error hscalar hreference
      simp [hcause]

theorem keyConversion_of_mem {scalar : String} (h : scalar ∈ TypeRef.keyTypes) :
    ∃ conversion, (ValueKind.primitive scalar).keyConversion = .ok conversion := by
  have hall : ∀ scalar ∈ TypeRef.keyTypes,
      ((ValueKind.primitive scalar).keyConversion).isOk = true := by
    decide +kernel
  have hok := hall scalar h
  cases hconversion : (ValueKind.primitive scalar).keyConversion with
  | error cause =>
    rw [hconversion] at hok
    cases hok
  | ok conversion => exact ⟨conversion, rfl⟩

end ValueKind

namespace Schema.Field

variable {f : Field} {registry : Registry}

theorem kindOf_some (t : TypeRef) : kindOf (some t) = failing .inconsistent (ValueKind.ofType t) :=
  rfl

/-- The keys of a map are scalars, not all of which may be keys. -/
theorem keyKind_eq_ok_iff {entry : MapEntry} {t : TypeRef} (hmap : f.map = some entry)
    (hkey : entry.key = some t) {kind : ValueKind} :
    f.keyKind = .ok kind ↔
      ∃ scalar, ValueKind.ofType t = .ok (.primitive scalar) ∧ scalar ∉ keylessTypes ∧
        kind = .primitive scalar := by
  simp only [keyKind, hmap, hkey, kindOf_some]
  cases hkind : ValueKind.ofType t with
  | error cause => simp [failing, Except.mapError, bind, Except.bind]
  | ok found =>
    cases found with
    | primitive scalar =>
      by_cases hkeyless : scalar ∈ keylessTypes
      · simp [hkeyless, failing, Except.mapError, bind, Except.bind, throw, throwThe,
          MonadExceptOf.throw]
      · simp [hkeyless, failing, Except.mapError, bind, Except.bind, pure, Except.pure, eq_comm]
    | _ =>
      simp [failing, Except.mapError, bind, Except.bind, throw, throwThe, MonadExceptOf.throw]

/-- Keys can be converted if they are of a type of keys. -/
theorem exists_keyConversion_iff {entry : MapEntry} {t : TypeRef} (hmap : f.map = some entry)
    (hkey : entry.key = some t) :
    (∃ kind, f.keyKind = .ok kind ∧ ∃ conversion, kind.keyConversion = .ok conversion) ↔
      t.isKey = true := by
  have hscalars : ∀ scalar ∈ TypeRef.keyTypes, scalar ∈ scalarTypes ∧ scalar ∉ keylessTypes := by
    decide +kernel
  have hsplit : ∀ scalar ∈ scalarTypes, scalar ∈ keylessTypes ∨ scalar ∈ TypeRef.keyTypes := by
    decide +kernel
  constructor
  · rintro ⟨kind, hkind, -⟩
    obtain ⟨scalar, hof, hkeyless, rfl⟩ := (keyKind_eq_ok_iff hmap hkey).1 hkind
    obtain ⟨hname, hmem⟩ := ValueKind.ofType_eq_primitive_iff.1 hof
    have hkeyType := (hsplit scalar hmem).resolve_left hkeyless
    simpa [TypeRef.isKey, hname] using hkeyType
  · intro h
    obtain ⟨scalar, hname, hmem⟩ : ∃ scalar, t.name = some scalar ∧ scalar ∈ TypeRef.keyTypes := by
      unfold TypeRef.isKey at h
      cases hname : t.name <;> simp_all
    obtain ⟨hscalar, hkeyless⟩ := hscalars scalar hmem
    have hof := ValueKind.ofType_eq_primitive_iff.2 ⟨hname, hscalar⟩
    exact ⟨_, (keyKind_eq_ok_iff hmap hkey).2 ⟨scalar, hof, hkeyless, rfl⟩,
      ValueKind.keyConversion_of_mem hmem⟩

/-! ## Fields -/

theorem elementKind_eq {t : TypeRef} (h : f.valueType? = some t) :
    f.elementKind = failing .inconsistent (ValueKind.ofType t) := by
  unfold valueType? at h
  unfold elementKind
  cases hmap : f.map with
  | none =>
    simp only [hmap] at h
    simp only [h]
  | some entry =>
    simp only [hmap] at h
    simp only [h]
    rfl

/-- Inconsistencies of a field with a type of values. -/
theorem isInconsistent_iff {Knows : String → Prop} {t : TypeRef} (h : f.valueType? = some t) :
    f.IsInconsistent Knows ↔
      ¬(t.isScalar = true ∨ t.isReference = true ∧ Knows t.target) ∨
        ∃ entry key, f.map = some entry ∧ entry.key = some key ∧ key.isKey = false := by
  constructor
  · rintro (⟨htype, hmap⟩ | ⟨h', hscalar, hreference⟩ | ⟨h', hreference, hknown⟩ |
      ⟨hmap, hkey, hno⟩)
    · simp [valueType?, hmap, htype] at h
    · rw [h] at h'
      cases h'
      left
      simp [hscalar, hreference]
    · rw [h] at h'
      cases h'
      left
      rintro (hscalar | ⟨-, hyes⟩)
      · rw [ValueKind.isReference_of_isScalar hscalar] at hreference
        cases hreference
      · exact hknown hyes
    · exact .inr ⟨_, _, hmap, hkey, hno⟩
  · rintro (hnot | ⟨entry, key, hmap, hkey, hno⟩)
    · cases hscalar : t.isScalar with
      | true => exact absurd (.inl hscalar) hnot
      | false =>
        cases hreference : t.isReference with
        | true => exact .unknown h hreference fun hknown => hnot (.inr ⟨hreference, hknown⟩)
        | false => exact .value h hscalar hreference
    · exact .key hmap hkey hno

end Schema.Field

namespace FieldPlan

variable {f : Schema.Field} {registry : Registry} {Knows : String → Prop}

theorem exists_ofValues_iff (hname : f.name ≠ none) {t : TypeRef} (ht : f.valueType? = some t)
    (hknows : ∀ name, (∃ entry, registry.lookup (some name) = .ok entry) ↔ Knows name)
    (key : String) (holding : Holding) :
    (∃ p, ofValues f registry key holding = .ok p) ↔
      t.isScalar = true ∨ t.isReference = true ∧ Knows t.target := by
  rw [← ValueKind.exists_conversion_iff hknows]
  obtain ⟨name, hname⟩ := Option.ne_none_iff_exists'.1 hname
  simp only [ofValues, bind_eq_ok, Field.elementKind_eq ht, failing_eq_ok, Field.declaredName, hname]
  constructor
  · rintro ⟨p, kind, hkind, -, -, conversion, hconversion, -⟩
    exact ⟨kind, hkind, conversion, hconversion⟩
  · rintro ⟨kind, hkind, conversion, hconversion⟩
    exact ⟨_, kind, hkind, name, rfl, conversion, hconversion, rfl⟩

theorem exists_ofMap_iff (hname : f.name ≠ none) {t k : TypeRef} {entry : MapEntry}
    (hmap : f.map = some entry) (ht : f.valueType? = some t) (hk : entry.key = some k)
    (hknows : ∀ name, (∃ entry, registry.lookup (some name) = .ok entry) ↔ Knows name)
    (key : String) :
    (∃ p, ofMap f registry key = .ok p) ↔
      (t.isScalar = true ∨ t.isReference = true ∧ Knows t.target) ∧ k.isKey = true := by
  rw [← ValueKind.exists_conversion_iff hknows, ← Field.exists_keyConversion_iff hmap hk]
  obtain ⟨name, hname⟩ := Option.ne_none_iff_exists'.1 hname
  simp only [ofMap, bind_eq_ok, Field.elementKind_eq ht, failing_eq_ok, Field.declaredName, hname]
  constructor
  · rintro ⟨p, kind, hkind, keyKind, hkeyKind, keyConversion, hkeyConversion, conversion,
      hconversion, -⟩
    exact ⟨⟨kind, hkind, conversion, hconversion⟩, keyKind, hkeyKind, keyConversion, hkeyConversion⟩
  · rintro ⟨⟨kind, hkind, conversion, hconversion⟩, keyKind, hkeyKind, keyConversion,
      hkeyConversion⟩
    exact ⟨_, kind, hkind, keyKind, hkeyKind, keyConversion, hkeyConversion, conversion,
      hconversion, name, rfl, rfl⟩

theorem exists_jsonKey (hname : f.name ≠ none) : ∃ key, f.jsonKey = .ok key := by
  obtain ⟨name, hname⟩ := Option.ne_none_iff_exists'.1 hname
  unfold Field.jsonKey
  split
  · exact ⟨_, rfl⟩
  · simp only [hname]
    exact ⟨_, rfl⟩

/-- A complete field has a plan unless it is inconsistent. -/
theorem exists_of_iff (hcomplete : f.IsComplete)
    (hknows : ∀ name, (∃ entry, registry.lookup (some name) = .ok entry) ↔ Knows name) :
    (∃ p, FieldPlan.of f registry = .ok p) ↔ ¬f.IsInconsistent Knows := by
  obtain ⟨key, hkey⟩ := exists_jsonKey hcomplete.name
  cases hmap : f.map with
  | none =>
    cases htype : f.type with
    | none =>
      have hshape : f.shape = .error (.untypedField f.name) := by simp [Field.shape, hmap, htype]
      have hinconsistent : f.IsInconsistent Knows := .untyped htype hmap
      have hnone : FieldPlan.of f registry = .error (.inconsistent (.untypedField f.name)) := by
        rw [FieldPlan.of, hshape]
        rfl
      simp [hnone, hinconsistent]
    | some t =>
      have ht : f.valueType? = some t := by simp [Field.valueType?, hmap, htype]
      have hiff : f.IsInconsistent Knows ↔
          ¬(t.isScalar = true ∨ t.isReference = true ∧ Knows t.target) := by
        simp [Field.isInconsistent_iff ht, hmap]
      rw [hiff, not_not]
      cases hrepeated : f.repeated.getD false with
      | true =>
        have hshape : f.shape = .ok .repeated := by simp [Field.shape, hmap, htype, hrepeated]
        have hof : FieldPlan.of f registry = ofValues f registry key .list := by
          rw [FieldPlan.of, hshape, hkey]
          rfl
        rw [hof, exists_ofValues_iff hcomplete.name ht hknows]
      | false =>
        have hshape : f.shape = .ok .singular := by simp [Field.shape, hmap, htype, hrepeated]
        have hof : FieldPlan.of f registry = ofValues f registry key .one := by
          rw [FieldPlan.of, hshape, hkey]
          rfl
        rw [hof, exists_ofValues_iff hcomplete.name ht hknows]
  | some entry =>
    obtain ⟨hkeyType, hvalueType⟩ := hcomplete.map entry hmap
    obtain ⟨k, hk⟩ := Option.ne_none_iff_exists'.1 hkeyType
    obtain ⟨t, ht⟩ := Option.ne_none_iff_exists'.1 hvalueType
    have ht' : f.valueType? = some t := by simp [Field.valueType?, hmap, ht]
    have hshape : f.shape = .ok .map := by simp [Field.shape, hmap]
    have hiff : f.IsInconsistent Knows ↔
        ¬((t.isScalar = true ∨ t.isReference = true ∧ Knows t.target) ∧ k.isKey = true) := by
      rw [Field.isInconsistent_iff ht', not_and_or]
      simp [hmap, hk]
    have hof : FieldPlan.of f registry = ofMap f registry key := by
      rw [FieldPlan.of, hshape, hkey]
      rfl
    rw [hiff, not_not, hof, exists_ofMap_iff hcomplete.name hmap ht' hk hknows]

theorem onlyInconsistent_kindOf {t : Option TypeRef} (h : t ≠ none) : OnlyInconsistent (kindOf t) := by
  obtain ⟨t, rfl⟩ := Option.ne_none_iff_exists'.1 h
  exact .inconsistent _

theorem onlyInconsistent_elementKind (hcomplete : f.IsComplete) :
    OnlyInconsistent f.elementKind := by
  unfold Field.elementKind
  cases hmap : f.map with
  | some entry => exact onlyInconsistent_kindOf (hcomplete.map entry hmap).2
  | none =>
    cases f.type with
    | none => exact .inconsistent (.error (.untypedField f.name))
    | some t => exact .inconsistent (ValueKind.ofType t)

theorem onlyInconsistent_keyKind (hcomplete : f.IsComplete) : OnlyInconsistent f.keyKind := by
  unfold Field.keyKind
  split
  · exact .inconsistent (.error (.notMap f.name))
  · rename_i entry hmap
    refine (onlyInconsistent_kindOf (hcomplete.map entry hmap).1).bind fun kind _ => ?_
    split
    · split
      · exact .inconsistent (.error (.invalidKeyType f.name _))
      · exact .ok _
    · exact .inconsistent (.error (.invalidKeyType f.name kind.name))

/-- There is no plan for causes in the schema only. -/
theorem onlyInconsistent_of (hcomplete : f.IsComplete) (registry : Registry) :
    OnlyInconsistent (FieldPlan.of f registry) := by
  obtain ⟨key, hkey⟩ := exists_jsonKey hcomplete.name
  obtain ⟨name, hname⟩ := Option.ne_none_iff_exists'.1 hcomplete.name
  have hdeclared : failing .nullPart f.declaredName = .ok name := by
    rw [Field.declaredName, hname]
    rfl
  have hvalues : ∀ holding, OnlyInconsistent (ofValues f registry key holding) := by
    intro holding
    refine (onlyInconsistent_elementKind hcomplete).bind fun kind _ => ?_
    rw [hdeclared]
    exact (OnlyInconsistent.ok name).bind fun _ _ =>
      (OnlyInconsistent.unregistered _).bind fun _ _ => .ok _
  unfold FieldPlan.of
  rw [hkey]
  refine (OnlyInconsistent.inconsistent _).bind fun shape _ => ?_
  refine (OnlyInconsistent.ok key).bind fun key' hkey' => ?_
  cases hkey'
  cases shape with
  | singular => exact hvalues .one
  | repeated => exact hvalues .list
  | map =>
    refine (onlyInconsistent_elementKind hcomplete).bind fun kind _ => ?_
    refine (onlyInconsistent_keyKind hcomplete).bind fun keyKind _ => ?_
    refine (OnlyInconsistent.inconsistent _).bind fun _ _ => ?_
    refine (OnlyInconsistent.unregistered _).bind fun _ _ => ?_
    rw [hdeclared]
    exact (OnlyInconsistent.ok name).bind fun _ _ => .ok _

end FieldPlan

end Protogen
