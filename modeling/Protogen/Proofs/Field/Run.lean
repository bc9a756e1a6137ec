import Protogen.Proofs.Field.Plan
import Protogen.Proofs.Script.Run

/-!
# What the code of a field does

The run of the statement of a plan is worked out for every object: it makes the calls that a field
of its shape is to make, one for each value, in order.

* `FieldPlan.expected` is what is to happen, said without code.
* `run_guarded` runs the code for one raw value, `statement_run` that for a whole field.
* `requiresNullGuard_eq`: null is a value of no type of a field but one.
-/

set_option autoImplicit false

namespace Protogen

open Script

/-! ## The type of which null is a value -/

namespace ValueKind

/-- Whether null is a value of the kind. -/
def nullIsValue (kind : ValueKind) : Bool := kind.isMessage && kind.name == dynamicValueType

theorem requiresNullGuard_ofType {t : Schema.TypeRef} {kind : ValueKind}
    (h : ofType t = .ok kind) : kind.requiresNullGuard = !kind.nullIsValue := by
  unfold ofType at h
  split at h
  · cases h
  · split at h
    · cases h
      rfl
    · split at h
      · unfold ofReference at h
        split at h
        · dsimp only at h
          split at h
          · cases h
            rfl
          · split at h
            · rename_i hname
              cases h
              simp [requiresNullGuard, nullIsValue, isMessage, ValueKind.name, hname]
            · rename_i hname
              cases h
              simp [requiresNullGuard, nullIsValue, isMessage, ValueKind.name, hname]
        · cases h
      · cases h

theorem requiresNullGuard_elementKind {f : Schema.Field} {kind : ValueKind}
    (h : f.elementKind = .ok kind) : kind.requiresNullGuard = !kind.nullIsValue := by
  unfold Schema.Field.elementKind at h
  split at h
  · unfold Schema.kindOf at h
    obtain ⟨t, -, h⟩ := bind_eq_ok.1 h
    exact requiresNullGuard_ofType (failing_eq_ok.1 h)
  · cases h
  · exact requiresNullGuard_ofType (failing_eq_ok.1 h)

end ValueKind

namespace FieldPlan

/-- What a raw value becomes: null stays null where it stands for no value. -/
def valueOf (p : FieldPlan) (convert : Conversion → Value → Value) (raw : Value) : Value :=
  if raw.isNull && !p.kind.nullIsValue then .null else p.conversion.apply convert raw

/-- The run that the code of a field is to have on an object. -/
def expected (p : FieldPlan) (convert : Conversion → Value → Value) (message source : Value) : Run :=
  let raw := source.get p.key
  match p.holding with
  | .one =>
    if raw.isUndefined then .done [] else .done [⟨message, p.accessor, [p.valueOf convert raw]⟩]
  | .list =>
    if raw.isMissing then .done []
    else match raw.elements? with
      | some elements =>
        .done (elements.map fun v => ⟨message, p.accessor, [p.valueOf convert v]⟩)
      | none => .thrown
  | .map key =>
    if raw.isMissing then .done []
    else .done (raw.ownEnumerated.map fun name =>
      ⟨message, p.accessor, [key.apply convert (.name name),
        p.conversion.apply convert (raw.get name)]⟩)

/-- What holds of every plan of a field: null is guarded where it is no value, and keys of maps are
read as numbers, truth values or texts. -/
structure IsRegular (p : FieldPlan) : Prop where
  guard : p.kind.requiresNullGuard = !p.kind.nullIsValue
  keys : ∀ key, p.holding = .map key → key = .integer ∨ key = .truth ∨ key = .plain

theorem keyConversion_cases {kind : ValueKind} {key : Conversion} (h : kind.keyConversion = .ok key) :
    key = .integer ∨ key = .truth ∨ key = .plain := by
  unfold ValueKind.keyConversion at h
  split at h
  · split at h
    · cases h
      exact .inl rfl
    · split at h
      · cases h
        exact .inr (.inl rfl)
      · split at h
        · cases h
          exact .inr (.inr rfl)
        · cases h
  · cases h

theorem isRegular_of {f : Schema.Field} {registry : Registry} {p : FieldPlan}
    (h : FieldPlan.of f registry = .ok p) : p.IsRegular := by
  obtain ⟨shape, -, h⟩ := bind_eq_ok.1 h
  obtain ⟨key, -, h⟩ := bind_eq_ok.1 h
  have hvalues : ∀ holding, (∀ key, holding ≠ .map key) → ofValues f registry key holding = .ok p →
      p.IsRegular := by
    intro holding hholding h
    obtain ⟨kind, hkind, h⟩ := bind_eq_ok.1 h
    obtain ⟨name, -, h⟩ := bind_eq_ok.1 h
    obtain ⟨conversion, -, h⟩ := bind_eq_ok.1 h
    cases h
    exact ⟨ValueKind.requiresNullGuard_elementKind hkind, fun key hkey => absurd hkey (hholding key)⟩
  cases shape with
  | singular => exact hvalues .one (by simp) h
  | repeated => exact hvalues .list (by simp) h
  | map =>
    obtain ⟨kind, hkind, h⟩ := bind_eq_ok.1 h
    obtain ⟨keyKind, -, h⟩ := bind_eq_ok.1 h
    obtain ⟨keyConversion, hkeyConversion, h⟩ := bind_eq_ok.1 h
    obtain ⟨conversion, -, h⟩ := bind_eq_ok.1 h
    obtain ⟨name, -, h⟩ := bind_eq_ok.1 h
    cases h
    refine ⟨ValueKind.requiresNullGuard_elementKind hkind, ?_⟩
    rintro key ⟨⟩
    exact keyConversion_cases (failing_eq_ok.1 hkeyConversion)

/-! ## Runs -/

section

variable {p : FieldPlan} {convert : Conversion → Value → Value} {scope : Scope}
  {message source v : Value} {keys : List Value}

/-- The call that the statement merging an operand makes. -/
theorem run_merge {operand : Operand} {w : Value} (hmessage : scope.lookup messageVariable =
    some message) (hkeys : p.keyArguments.mapM (Operand.value? scope) = some keys)
    (hvalue : operand.value? scope = some w) :
    (p.merge operand).run convert scope = .done [⟨message, p.accessor, keys ++ [w]⟩] := by
  have harguments : (p.keyArguments ++ [operand]).mapM (Operand.value? scope) =
      some (keys ++ [w]) := by
    simp [List.mapM_append, hkeys, hvalue]
  simp only [merge, Statement.run, hmessage, harguments]

theorem runAll_convertAndMerge {raw : Access} (hraw : raw.value? scope = some v)
    (hmessage : scope.lookup messageVariable = some message)
    (hkeys : p.keyArguments.mapM (Operand.value? scope) = some keys) :
    runAll convert scope (p.convertAndMerge raw) =
      .done [⟨message, p.accessor, keys ++ [p.conversion.apply convert v]⟩] := by
  -- the variable of the value hides none of the others
  have hinner : ∀ w, ((valueVariable, w) :: scope).lookup messageVariable = some message := by
    intro w
    rw [List.lookup_cons, show (messageVariable == valueVariable) = false by decide]
    exact hmessage
  have hkeysInner : ∀ w,
      p.keyArguments.mapM (Operand.value? ((valueVariable, w) :: scope)) = some keys := by
    intro w
    have hne : (mapKeyVariable == valueVariable) = false := by decide
    unfold keyArguments at hkeys ⊢
    split at hkeys <;> simpa [Operand.value?, List.lookup_cons, hne] using hkeys
  have hvalue : ∀ w, (Operand.var valueVariable).value? ((valueVariable, w) :: scope) = some w := by
    intro w
    simp [Operand.value?]
  have hmerge : (p.merge (.var valueVariable)).run convert _ = _ :=
    run_merge (hinner (p.conversion.apply convert v)) (hkeysInner _) (hvalue _)
  have hlast : (p.merge (.var valueVariable)).isBinding = false := rfl
  simp only [convertAndMerge, runAll, hraw]
  rw [runAll_singleton hlast, hmerge]

theorem runAll_guarded {raw : Access} (hkind : p.kind.requiresNullGuard = !p.kind.nullIsValue)
    (hraw : raw.value? scope = some v)
    (hmessage : scope.lookup messageVariable = some message)
    (hkeys : p.keyArguments.mapM (Operand.value? scope) = some keys) :
    runAll convert scope (p.guarded raw) =
      .done [⟨message, p.accessor, keys ++ [p.valueOf convert v]⟩] := by
  have hconvert : runAll convert scope (p.convertAndMerge raw) = _ :=
    runAll_convertAndMerge hraw hmessage hkeys
  unfold guarded valueOf
  cases hnull : p.kind.nullIsValue with
  | true =>
    rw [hnull, Bool.not_true] at hkind
    rw [hkind, if_neg (by simp), Bool.not_true, Bool.and_false, if_neg (by simp), hconvert]
  | false =>
    rw [hnull, Bool.not_false] at hkind
    have htest : (Test.one (.isNull raw)).holds? scope = some v.isNull := by
      simp [Test.holds?, Comparison.holds?, hraw]
    have hmerge : runAll convert scope [p.merge .null] =
        .done [⟨message, p.accessor, keys ++ [.null]⟩] := by
      have hlast : (p.merge .null).isBinding = false := rfl
      rw [runAll_singleton hlast, run_merge hmessage hkeys rfl]
    rw [hkind, if_pos rfl, Bool.not_false, Bool.and_true, runAll_singleton rfl, Statement.run, htest]
    cases v.isNull with
    | true => exact hmerge
    | false => exact hconvert

theorem present_holds {raw : Access} (hraw : raw.value? scope = some v) :
    (present raw).holds? scope = some (!v.isMissing) := by
  simp only [present, Test.holds?, Comparison.holds?, hraw, Option.map_some, Value.isMissing]
  cases v.isUndefined <;> simp

/-- Every element of a list is merged. -/
theorem run_forEach {raw : Access} (hholding : p.holding = .list)
    (hkind : p.kind.requiresNullGuard = !p.kind.nullIsValue) (hraw : raw.value? scope = some v)
    (hmessage : scope.lookup messageVariable = some message) :
    (Statement.forEach raw FieldToParse.listItem (p.guarded (.var FieldToParse.listItem))).run
      convert scope =
        match v.elements? with
        | some elements =>
          .done (elements.map fun e => ⟨message, p.accessor, [p.valueOf convert e]⟩)
        | none => .thrown := by
  have helement : ∀ e : Value, runAll convert ((FieldToParse.listItem, e) :: scope)
      (p.guarded (.var FieldToParse.listItem)) =
        .done [⟨message, p.accessor, [p.valueOf convert e]⟩] := by
    intro e
    have hitem : (Access.var FieldToParse.listItem).value?
        ((FieldToParse.listItem, e) :: scope) = some e := by
      simp [Access.value?]
    have hinner : ((FieldToParse.listItem, e) :: scope).lookup messageVariable = some message := by
      rw [List.lookup_cons, show (messageVariable == FieldToParse.listItem) = false by decide]
      exact hmessage
    have hkeys : p.keyArguments.mapM (Operand.value? ((FieldToParse.listItem, e) :: scope)) =
        some [] := by
      simp [keyArguments, hholding]
    exact runAll_guarded hkind hitem hinner hkeys
  rw [Statement.run, hraw, Option.bind_some]
  cases v.elements? with
  | none => rfl
  | some elements =>
    simp only [helement]
    have hsequence := Run.sequence_done elements fun e =>
      [Merge.mk message p.accessor [p.valueOf convert e]]
    rw [← List.map_eq_flatMap] at hsequence
    exact hsequence

theorem raw_value (hobject : scope.lookup objectVariable = some source)
    (hsource : source.isMissing = false) : p.raw.value? scope = some (source.get p.key) := by
  simp [FieldPlan.raw, Access.value?, hobject, Value.read?, hsource]

/-- One entry of a map is merged if it is the map's own. -/
theorem run_entry {key : Conversion} (name : String) (hholding : p.holding = .map key)
    (hobject : scope.lookup objectVariable = some source) (hsource : source.isMissing = false)
    (hpresent : (source.get p.key).isMissing = false)
    (hmessage : scope.lookup messageVariable = some message) :
    runAll convert ((FieldToParse.propertyName, .name name) :: scope)
      [.when (.one (.owns p.raw)) (.bind mapKeyVariable key (.var FieldToParse.propertyName) ::
        p.convertAndMerge (.entry objectVariable p.key))] =
      .done (if (source.get p.key).owns name then
        [⟨message, p.accessor, [key.apply convert (.name name),
          p.conversion.apply convert ((source.get p.key).get name)]⟩] else []) := by
  -- the variables of the loop hide none of the others
  have hloop : ∀ x : String, (x == FieldToParse.propertyName) = false →
      ((FieldToParse.propertyName, Value.name name) :: scope).lookup x = scope.lookup x := by
    intro x hx
    rw [List.lookup_cons, hx]
  have hinner : ∀ (x : String) (w : Value), (x == FieldToParse.propertyName) = false →
      (x == mapKeyVariable) = false →
      ((mapKeyVariable, w) :: (FieldToParse.propertyName, Value.name name) :: scope).lookup x =
        scope.lookup x := by
    intro x w hx hx'
    rw [List.lookup_cons, hx', ← hloop x hx]
  have hvisited : ∀ w : Value, ((mapKeyVariable, w) ::
      (FieldToParse.propertyName, Value.name name) :: scope).lookup FieldToParse.propertyName =
        some (.name name) := by
    intro w
    rw [List.lookup_cons, show (FieldToParse.propertyName == mapKeyVariable) = false by decide,
      List.lookup_cons_self]
  have hraw : p.raw.value? ((FieldToParse.propertyName, .name name) :: scope) =
      some (source.get p.key) :=
    raw_value ((hloop _ (by decide)).trans hobject) hsource
  have howns : (Test.one (.owns p.raw)).holds? ((FieldToParse.propertyName, .name name) :: scope) =
      some ((source.get p.key).owns name) := by
    simp [Test.holds?, Comparison.holds?, hraw, hpresent]
  have hentry : ∀ w, (Access.entry objectVariable p.key).value? ((mapKeyVariable, w) ::
      (FieldToParse.propertyName, .name name) :: scope) =
        some ((source.get p.key).get name) := by
    intro w
    simp only [Access.value?, hvisited, hinner objectVariable w (by decide) (by decide), hobject]
    simp [Value.read?, hsource, hpresent]
  have hkeys : ∀ w, p.keyArguments.mapM (Operand.value? ((mapKeyVariable, w) ::
      (FieldToParse.propertyName, .name name) :: scope)) = some [w] := by
    intro w
    simp [keyArguments, hholding, Operand.value?]
  have hkey : (Access.var FieldToParse.propertyName).value?
      ((FieldToParse.propertyName, .name name) :: scope) = some (.name name) := by
    simp [Access.value?]
  rw [runAll_singleton rfl, Statement.run, howns]
  cases (source.get p.key).owns name with
  | false => rfl
  | true =>
    have hbody : runAll convert ((mapKeyVariable, key.apply convert (.name name)) ::
        (FieldToParse.propertyName, .name name) :: scope)
          (p.convertAndMerge (.entry objectVariable p.key)) = _ :=
      runAll_convertAndMerge (hentry _)
        ((hinner messageVariable _ (by decide) (by decide)).trans hmessage) (hkeys _)
    simp only [runAll, hkey, hbody]
    rfl

theorem flatMap_ite {α β : Type} (items : List α) (q : α → Bool) (g : α → β) :
    (items.flatMap fun i => if q i then [g i] else []) = (items.filter q).map g := by
  induction items with
  | nil => rfl
  | cons i items ih =>
    rw [List.flatMap_cons, ih, List.filter_cons]
    cases q i <;> rfl

/-- The code of a field makes the calls that are to be made. -/
theorem statement_run (hkind : p.kind.requiresNullGuard = !p.kind.nullIsValue)
    (hmessage : scope.lookup messageVariable = some message)
    (hobject : scope.lookup objectVariable = some source) (hsource : source.isMissing = false) :
    p.statement.run convert scope = p.expected convert message source := by
  have hraw : p.raw.value? scope = some (source.get p.key) := raw_value hobject hsource
  unfold statement expected
  dsimp only
  cases hholding : p.holding with
  | one =>
    have htest : (Test.one (.isDefined p.raw)).holds? scope =
        some (!(source.get p.key).isUndefined) := by
      simp [Test.holds?, Comparison.holds?, hraw]
    have hkeys : p.keyArguments.mapM (Operand.value? scope) = some [] := by
      simp [keyArguments, hholding]
    have hbody : runAll convert scope (p.guarded p.raw) = _ :=
      runAll_guarded hkind hraw hmessage hkeys
    simp only [Statement.run, htest]
    cases (source.get p.key).isUndefined with
    | true => rfl
    | false => simpa using hbody
  | list =>
    simp only [Statement.run, present_holds hraw]
    cases (source.get p.key).isMissing with
    | true => rfl
    | false =>
      have hbody : runAll convert scope [.forEach p.raw FieldToParse.listItem
          (p.guarded (.var FieldToParse.listItem))] = _ :=
        (runAll_singleton rfl).trans (run_forEach hholding hkind hraw hmessage)
      exact hbody
  | map key =>
    simp only [Statement.run, present_holds hraw]
    cases hpresent : (source.get p.key).isMissing with
    | true => rfl
    | false =>
      have hentry : ∀ name, runAll convert _ _ = _ :=
        fun name => run_entry name hholding hobject hsource hpresent hmessage
      have hsequence := Run.sequence_done (source.get p.key).enumerated fun name =>
        if (source.get p.key).owns name then
          [Merge.mk message p.accessor [key.apply convert (.name name),
            p.conversion.apply convert ((source.get p.key).get name)]] else []
      refine (runAll_singleton rfl).trans ?_
      rw [Statement.run, hraw]
      simp only [hentry]
      rw [hsequence, flatMap_ite]
      rfl

end

end FieldPlan

end Protogen
