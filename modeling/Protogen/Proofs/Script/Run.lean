import Protogen.Proofs.Script.Basic

/-!
# Running scripts

A run of a script makes calls that merge values into messages, in order, and then ends in one of
three ways. What an opaque expression makes of a raw value is a parameter of the run.

* `Value` is a JavaScript value as scripts see it: they compare it with `undefined` and `null`,
  read its properties, and visit its elements or the names of its enumerable properties.
* `Run` is what a run did, `Run.andThen` puts two runs behind each other.
* `Statement.run` and `runAll` run statements; a binding counts up to the end of its block.
* `Program.call` calls a function.
-/

set_option autoImplicit false

namespace Protogen.Script

/-- A property that is seen on a value, its own or an inherited one. -/
structure Property (α : Type) where
  name : String
  isOwn : Bool
  isEnumerable : Bool
  value : α

/-- A JavaScript value. -/
inductive Value
  | undefined
  | null
  /-- the name of a property, which is a text -/
  | name (text : String)
  /-- a message that was made by a constructor -/
  | message (typeName : String)
  /-- any other value: what tells it from others, what its method `forEach` visits if it has one,
  and the properties that are seen on it in the order in which they are visited -/
  | entity (identity : String) (elements : Option (List Value)) (properties : List (Property Value))

namespace Value

/-- Whether a value is `null`. -/
def isNull : Value → Bool
  | null => true
  | _ => false

/-- Whether a value is `undefined`. -/
def isUndefined : Value → Bool
  | undefined => true
  | _ => false

/-- Whether a value is `undefined` or `null`. -/
def isMissing (v : Value) : Bool := v.isUndefined || v.isNull

/-- Whether a value is neither a missing one nor a text nor a message. -/
def isEntity : Value → Bool
  | entity _ _ _ => true
  | _ => false

/-- The properties that are seen on a value. -/
def properties : Value → List (Property Value)
  | entity _ _ properties => properties
  | _ => []

/-- The property of a value with a name; a property that is not there is `undefined`. -/
def get (v : Value) (key : String) : Value :=
  ((v.properties.find? fun p => p.name == key).map Property.value).getD undefined

/-- Reading a property throws an error for a missing value. -/
def read? (v : Value) (key : String) : Option Value := if v.isMissing then none else some (v.get key)

/-- The names that `for … in` visits: those of enumerable properties, own or inherited. -/
def enumerated (v : Value) : List String :=
  (v.properties.filter Property.isEnumerable).map Property.name

/-- Whether a value has a property of its own with a name. -/
def owns (v : Value) (key : String) : Bool := v.properties.any fun p => p.name == key && p.isOwn

/-- The names among the visited ones that are those of properties of its own. -/
def ownEnumerated (v : Value) : List String := v.enumerated.filter v.owns

/-- The elements that `forEach` visits, if the value has that method. -/
def elements? : Value → Option (List Value)
  | entity _ elements _ => elements
  | _ => none

end Value

/-- A call that merges values into a message. -/
structure Merge where
  message : Value
  accessor : String
  arguments : List Value

/-- How a run ends. -/
inductive Ending
  /-- behind the last statement -/
  | reached
  | returned (result : Value)
  /-- with an error -/
  | thrown

/-- The calls that were made, and the end of the run. -/
structure Run where
  merges : List Merge
  ending : Ending

namespace Run

/-- A run that comes to its end without any other effect than calls. -/
def done (merges : List Merge) : Run := ⟨merges, .reached⟩

/-- A run that ends with an error. -/
def thrown : Run := ⟨[], .thrown⟩

/-- A run and the one behind it, if the first one reaches its end. -/
def andThen (first next : Run) : Run :=
  match first.ending with
  | .reached => ⟨first.merges ++ next.merges, next.ending⟩
  | ending => ⟨first.merges, ending⟩

/-- Runs behind each other. -/
def sequence (runs : List Run) : Run := runs.foldr andThen (done [])

/-- The run of a function that is called: it ends where it returns. -/
def called (r : Run) : Run :=
  match r.ending with
  | .returned _ => ⟨r.merges, .reached⟩
  | _ => r

end Run

/-- The variables with their values, the last bound first. -/
abbrev Scope := List (String × Value)

/-- What a script reads at a place; nothing if that is an error. -/
def Access.value? (scope : Scope) : Access → Option Value
  | .var name => scope.lookup name
  | .property object key => do (← scope.lookup object).read? key
  | .entry object key => do
    match ← scope.lookup FieldToParse.propertyName with
    | .name visited => (← (← scope.lookup object).read? key).read? visited
    | _ => none

/-- Whether a comparison holds; nothing if that is an error. -/
def Comparison.holds? (scope : Scope) : Comparison → Option Bool
  | .isNull value => (value.value? scope).map Value.isNull
  | .isDefined value => (value.value? scope).map fun v => !v.isUndefined
  | .isNotNull value => (value.value? scope).map fun v => !v.isNull
  | .owns object => do
    match ← scope.lookup FieldToParse.propertyName with
    | .name visited => do
      let v ← object.value? scope
      if v.isMissing then none else some (v.owns visited)
    | _ => none

/-- Whether a test holds; the second of two comparisons is not made if the first does not hold. -/
def Test.holds? (scope : Scope) : Test → Option Bool
  | .one comparison => comparison.holds? scope
  | .both first second => do if ← first.holds? scope then second.holds? scope else some false

/-- The value of an operand. -/
def Operand.value? (scope : Scope) : Operand → Option Value
  | .null => some .null
  | .var name => scope.lookup name

section

-- what the converting expressions make of raw values
variable (convert : Conversion → Value → Value)

/-- The value of a converted raw value. -/
def Conversion.apply (conversion : Conversion) (raw : Value) : Value :=
  if conversion = .plain then raw else convert conversion raw

mutual

/-- Runs a statement other than a binding. -/
def Statement.run (scope : Scope) : Statement → Run
  | .when test body =>
    match test.holds? scope with
    | some true => runAll scope body
    | some false => .done []
    | none => .thrown
  | .choose test body otherwise =>
    match test.holds? scope with
    | some true => runAll scope body
    | some false => runAll scope otherwise
    | none => .thrown
  | .forEach list item body =>
    match (list.value? scope).bind Value.elements? with
    | some elements => .sequence (elements.map fun v => (runAll ((item, v) :: scope) body).called)
    | none => .thrown
  | .forIn object body =>
    match object.value? scope with
    | some v => .sequence (v.enumerated.map fun key =>
        runAll ((FieldToParse.propertyName, .name key) :: scope) body)
    | none => .thrown
  | .merge message accessor arguments =>
    match scope.lookup message, arguments.mapM (Operand.value? scope) with
    | some receiver, some values => .done [⟨receiver, accessor, values⟩]
    | _, _ => .thrown
  | .leave result =>
    match result.value? scope with
    | some v => ⟨[], .returned v⟩
    | none => .thrown
  | .bind _ _ _ => .done []
  | .create _ _ => .done []

/-- Runs statements, one after the other. -/
def runAll (scope : Scope) : List Statement → Run
  | [] => .done []
  | .bind name conversion raw :: rest =>
    match raw.value? scope with
    | some v => runAll ((name, conversion.apply convert v) :: scope) rest
    | none => .thrown
  | .create name typeName :: rest => runAll ((name, .message typeName) :: scope) rest
  | statement :: rest => (statement.run scope).andThen (runAll scope rest)

end

/-- Calls a function with an argument. -/
def Program.call (p : Program) (argument : Value) : Run :=
  runAll convert [(p.argument, argument)] p.body

end

/-! ## Runs behind each other -/

namespace Run

@[simp] theorem andThen_done (merges : List Merge) (next : Run) :
    (done merges).andThen next = ⟨merges ++ next.merges, next.ending⟩ := rfl

@[simp] theorem andThen_returned (merges : List Merge) (v : Value) (next : Run) :
    (Run.mk merges (.returned v)).andThen next = ⟨merges, .returned v⟩ := rfl

@[simp] theorem andThen_nil (r : Run) : r.andThen (done []) = r := by
  obtain ⟨merges, ending⟩ := r
  cases ending <;> simp [andThen, done]

theorem andThen_assoc (r s t : Run) : (r.andThen s).andThen t = r.andThen (s.andThen t) := by
  obtain ⟨merges, ending⟩ := r
  cases ending with
  | reached =>
    obtain ⟨merges', ending'⟩ := s
    cases ending' <;> simp [andThen]
  | returned v => rfl
  | thrown => rfl

/-- Runs that make calls and reach their ends. -/
theorem sequence_done {α : Type} (items : List α) (calls : α → List Merge) :
    sequence (items.map fun i => done (calls i)) = done (items.flatMap calls) := by
  induction items with
  | nil => rfl
  | cons i items ih =>
    have hrest : sequence ((i :: items).map fun i => done (calls i)) =
        (done (calls i)).andThen (sequence (items.map fun i => done (calls i))) := rfl
    rw [hrest, ih, List.flatMap_cons]
    rfl

end Run

/-- Whether a statement binds a variable. -/
def Statement.isBinding : Statement → Bool
  | .bind _ _ _ => true
  | .create _ _ => true
  | _ => false

theorem runAll_cons {convert : Conversion → Value → Value} {scope : Scope} {statement : Statement}
    (rest : List Statement) (h : statement.isBinding = false) :
    runAll convert scope (statement :: rest) =
      (statement.run convert scope).andThen (runAll convert scope rest) := by
  cases statement <;> first | rfl | cases h

theorem runAll_singleton {convert : Conversion → Value → Value} {scope : Scope}
    {statement : Statement} (h : statement.isBinding = false) :
    runAll convert scope [statement] = statement.run convert scope := by
  rw [runAll_cons [] h, runAll, Run.andThen_nil]

end Protogen.Script
