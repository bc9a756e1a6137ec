import Protogen.Schema.Decode
import Protogen.Proofs.Failure

/-!
# The faults of a document

A document is read up to its first fault. `FileSet.faults` lists all of its faults in the order in
which they are read, as if reading went on behind each of them.

* `StopsAtFirst r faults`: a computation fails with the first of the faults, or there are none.
* `StopsAtFirst.bind`, `StopsAtFirst.mapM`: the faults of steps and of lists.
* `nullableFaults`, `requiredFaults`, `optionalFaults`, `listFaults`, `recordFaults`: the faults of
  parts, members, lists and objects.
* `Message.faults`: the faults of a message, with those nested in it.
* `FileSet.stopsAtFirst`: the whole schema.
-/

set_option autoImplicit false

namespace Protogen

variable {ε α β : Type}

/-- A computation fails with the first of the faults, and has a result if there are none. -/
def StopsAtFirst (r : Except ε α) (faults : List ε) : Prop :=
  match r with
  | .ok _ => faults = []
  | .error fault => faults.head? = some fault

namespace StopsAtFirst

theorem pure (a : α) : StopsAtFirst (.ok a : Except ε α) [] := rfl

theorem error (fault : ε) (more : List ε) :
    StopsAtFirst (.error fault : Except ε α) (fault :: more) := rfl

/-- The faults of a step and of the one behind it. -/
theorem bind {r : Except ε α} {k : α → Except ε β} {faults behind : List ε}
    (h : StopsAtFirst r faults) (hk : ∀ a, r = .ok a → StopsAtFirst (k a) behind) :
    StopsAtFirst (r >>= k) (faults ++ behind) := by
  cases r with
  | ok a =>
    have hnone : faults = [] := h
    rw [hnone]
    exact hk a rfl
  | error fault =>
    have hfirst : faults.head? = some fault := h
    show (faults ++ behind).head? = some fault
    rw [List.head?_append, hfirst]
    rfl

theorem map {r : Except ε α} {faults : List ε} (h : StopsAtFirst r faults) (g : α → β) :
    StopsAtFirst (r.map g) faults := by
  cases r with
  | ok a => exact h
  | error fault => exact h

/-- The faults of a list are those of its items, in order. -/
theorem mapM {f : α → Except ε β} {faults : α → List ε} {items : List α}
    (h : ∀ a ∈ items, StopsAtFirst (f a) (faults a)) :
    StopsAtFirst (items.mapM f) (items.flatMap faults) := by
  induction items with
  | nil => exact pure _
  | cons a items ih =>
    rw [List.mapM_cons, List.flatMap_cons]
    refine bind (h a (List.mem_cons_self ..)) fun first _ => ?_
    have hrest := ih fun b hb => h b (List.mem_cons_of_mem _ hb)
    exact hrest.map _

theorem eq_error_iff {r : Except ε α} {faults : List ε} (h : StopsAtFirst r faults) {fault : ε} :
    r = .error fault ↔ faults.head? = some fault := by
  cases r with
  | ok a =>
    have hnone : faults = [] := h
    simp [hnone]
  | error fault' =>
    have hfirst : faults.head? = some fault' := h
    simp [hfirst]

end StopsAtFirst

namespace Schema

/-! ## Parts of a document -/

/-- The faults of a part that may be null. -/
def nullableFaults (faults : Json → List DecodeFault) : Json → List DecodeFault
  | .null => []
  | value => faults value

/-- The faults of a member that has to be there. -/
def requiredFaults (name : String) (faults : Json → List DecodeFault)
    (members : List (String × Json)) : List DecodeFault :=
  match members.lookup name with
  | none => [.missing name]
  | some value => nullableFaults faults value

/-- The faults of a member that has a default. -/
def optionalFaults (name : String) (faults : Json → List DecodeFault)
    (members : List (String × Json)) : List DecodeFault :=
  match members.lookup name with
  | none => []
  | some value => nullableFaults faults value

/-- The faults of an object with such members, in order. -/
def recordFaults (parts : List (List (String × Json) → List DecodeFault)) :
    Json → List DecodeFault
  | .obj members => parts.flatMap fun faults => faults members
  | _ => [.notObject]

/-- The faults of a number. -/
def numberFaults (value : Json) : List DecodeFault :=
  match asNumber value with
  | .ok _ => []
  | .error fault => [fault]

/-- The faults of a list. -/
def listFaults (faults : Json → List DecodeFault) (value : Json) : List DecodeFault :=
  match elementsOf value with
  | .ok items => items.flatMap (nullableFaults faults)
  | .error fault => [fault]

/-- Texts and truth values have no faults. -/
def noFaults (_ : Json) : List DecodeFault := []

section Parts

variable {decode : Decoder α} {faults : Json → List DecodeFault}
  (h : ∀ value, StopsAtFirst (decode value) (faults value))

include h

theorem stopsAtFirst_orNull (value : Json) :
    StopsAtFirst (orNull decode value) (nullableFaults faults value) := by
  cases value with
  | null => exact .pure _
  | _ => exact (h _).map _

theorem stopsAtFirst_required (name : String) (members : List (String × Json)) :
    StopsAtFirst (required name decode members) (requiredFaults name faults members) := by
  unfold required requiredFaults
  cases members.lookup name with
  | none => exact .error _ _
  | some value => exact stopsAtFirst_orNull h value

theorem stopsAtFirst_optional (name : String) (default : Option α)
    (members : List (String × Json)) :
    StopsAtFirst (optional name default decode members) (optionalFaults name faults members) := by
  unfold optional optionalFaults
  cases members.lookup name with
  | none => exact .pure _
  | some value => exact stopsAtFirst_orNull h value

theorem stopsAtFirst_asList (value : Json) :
    StopsAtFirst (asList decode value) (listFaults faults value) := by
  unfold asList listFaults
  cases elementsOf value with
  | error fault => exact .error _ _
  | ok items => exact .mapM fun item _ => stopsAtFirst_orNull h item

end Parts

theorem stopsAtFirst_asText (value : Json) : StopsAtFirst (asText value) (noFaults value) := rfl

theorem stopsAtFirst_asTruth (value : Json) : StopsAtFirst (asTruth value) (noFaults value) := rfl

theorem stopsAtFirst_asNumber (value : Json) : StopsAtFirst (asNumber value) (numberFaults value) := by
  unfold numberFaults
  cases asNumber value with
  | ok n => exact .pure n
  | error fault => exact .error _ _

/-! ## The declarations -/

/-- The faults of a type. -/
def TypeRef.faults : Json → List DecodeFault :=
  recordFaults [requiredFaults "name" noFaults, optionalFaults "type_name" noFaults]

/-- The faults of the types of a map. -/
def MapEntry.faults : Json → List DecodeFault :=
  recordFaults [requiredFaults "key" TypeRef.faults, requiredFaults "value" TypeRef.faults]

/-- The faults of a field. -/
def Field.faults : Json → List DecodeFault :=
  recordFaults [requiredFaults "name" noFaults, optionalFaults "type" TypeRef.faults,
    optionalFaults "number" numberFaults, optionalFaults "json_name" noFaults,
    optionalFaults "repeated" noFaults, optionalFaults "map" MapEntry.faults]

/-- The faults of a value of an enum. -/
def EnumValue.faults : Json → List DecodeFault :=
  recordFaults [requiredFaults "name" noFaults, requiredFaults "number" numberFaults]

/-- The faults of an enum. -/
def Enum.faults : Json → List DecodeFault :=
  recordFaults [requiredFaults "name" noFaults, optionalFaults "values" (listFaults EnumValue.faults)]

theorem TypeRef.stopsAtFirst (value : Json) :
    StopsAtFirst (TypeRef.decode value) (TypeRef.faults value) := by
  cases value with
  | obj members =>
    exact (stopsAtFirst_required stopsAtFirst_asText "name" members).bind fun _ _ =>
      (stopsAtFirst_optional stopsAtFirst_asText "type_name" none members).bind fun _ _ => .pure _
  | _ => exact .error _ _

theorem MapEntry.stopsAtFirst (value : Json) :
    StopsAtFirst (MapEntry.decode value) (MapEntry.faults value) := by
  cases value with
  | obj members =>
    exact (stopsAtFirst_required TypeRef.stopsAtFirst "key" members).bind fun _ _ =>
      (stopsAtFirst_required TypeRef.stopsAtFirst "value" members).bind fun _ _ => .pure _
  | _ => exact .error _ _

theorem Field.stopsAtFirst (value : Json) :
    StopsAtFirst (Field.decode value) (Field.faults value) := by
  cases value with
  | obj members =>
    exact (stopsAtFirst_required stopsAtFirst_asText "name" members).bind fun _ _ =>
      (stopsAtFirst_optional TypeRef.stopsAtFirst "type" none members).bind fun _ _ =>
      (stopsAtFirst_optional stopsAtFirst_asNumber "number" _ members).bind fun _ _ =>
      (stopsAtFirst_optional stopsAtFirst_asText "json_name" none members).bind fun _ _ =>
      (stopsAtFirst_optional stopsAtFirst_asTruth "repeated" _ members).bind fun _ _ =>
      (stopsAtFirst_optional MapEntry.stopsAtFirst "map" none members).bind fun _ _ => .pure _
  | _ => exact .error _ _

theorem EnumValue.stopsAtFirst (value : Json) :
    StopsAtFirst (EnumValue.decode value) (EnumValue.faults value) := by
  cases value with
  | obj members =>
    exact (stopsAtFirst_required stopsAtFirst_asText "name" members).bind fun _ _ =>
      (stopsAtFirst_required stopsAtFirst_asNumber "number" members).bind fun _ _ => .pure _
  | _ => exact .error _ _

theorem Enum.stopsAtFirst (value : Json) :
    StopsAtFirst (Enum.decode value) (Enum.faults value) := by
  cases value with
  | obj members =>
    exact (stopsAtFirst_required stopsAtFirst_asText "name" members).bind fun _ _ =>
      (stopsAtFirst_optional (stopsAtFirst_asList EnumValue.stopsAtFirst) "values" _
        members).bind fun _ _ => .pure _
  | _ => exact .error _ _

/-! ## Messages, with those nested in them -/

mutual

/-- The faults of a message. -/
def Message.faults : Json → List DecodeFault
  | .obj members =>
    [requiredFaults "name" noFaults members, optionalFaults "fields" (listFaults Field.faults) members,
      Message.faultsOfNested members, optionalFaults "enums" (listFaults Enum.faults) members].flatten
  | _ => [.notObject]

/-- The faults of the nested messages among the members of a message. -/
def Message.faultsOfNested : List (String × Json) → List DecodeFault
  | [] => []
  | (name, value) :: members =>
    if name = "messages" then Message.faultsOfList value else Message.faultsOfNested members

/-- The faults of a list of messages, which may be null; characters and names are no messages. -/
def Message.faultsOfList : Json → List DecodeFault
  | .null => []
  | .arr items => Message.faultsOfItems items
  | .str s => s.toList.map fun _ => .notObject
  | .obj members => members.map fun _ => .notObject
  | value => [.notIterable value.shape]

/-- The faults of messages, each of which may be null. -/
def Message.faultsOfItems : List Json → List DecodeFault
  | [] => []
  | .null :: items => Message.faultsOfItems items
  | item :: items => Message.faults item ++ Message.faultsOfItems items

end

mutual

theorem Message.stopsAtFirst (value : Json) :
    StopsAtFirst (Message.decode value) (Message.faults value) := by
  match value with
  | .obj members =>
    rw [Message.decode, Message.faults]
    exact (stopsAtFirst_required stopsAtFirst_asText "name" members).bind fun _ _ =>
      (stopsAtFirst_optional (stopsAtFirst_asList Field.stopsAtFirst) "fields" _
        members).bind fun _ _ =>
      (Message.stopsAtFirst_decodeNested members).bind fun _ _ =>
      (stopsAtFirst_optional (stopsAtFirst_asList Enum.stopsAtFirst) "enums" _
        members).bind fun _ _ => .pure _
  | .null | .bool _ | .int _ | .float _ | .str _ | .arr _ =>
    rw [Message.decode, Message.faults]
    exact .error _ _
    all_goals nofun

theorem Message.stopsAtFirst_decodeNested (members : List (String × Json)) :
    StopsAtFirst (Message.decodeNested members) (Message.faultsOfNested members) := by
  match members with
  | [] =>
    rw [Message.decodeNested, Message.faultsOfNested]
    exact .pure _
  | (name, value) :: members =>
    rw [Message.decodeNested, Message.faultsOfNested]
    split
    · exact Message.stopsAtFirst_decodeList value
    · exact Message.stopsAtFirst_decodeNested members

theorem Message.stopsAtFirst_decodeList (value : Json) :
    StopsAtFirst (Message.decodeList value) (Message.faultsOfList value) := by
  match value with
  | .null =>
    rw [Message.decodeList, Message.faultsOfList]
    exact .pure _
  | .arr items =>
    rw [Message.decodeList, Message.faultsOfList]
    exact (Message.stopsAtFirst_decodeItems items).map _
  | .str s =>
    rw [Message.decodeList, Message.faultsOfList]
    split
    case isTrue hempty =>
      obtain rfl := String.isEmpty_iff.1 hempty
      exact .pure _
    case isFalse hempty =>
      have hsome : s.toList ≠ [] := by simpa using hempty
      obtain ⟨c, rest, hs⟩ := List.exists_cons_of_ne_nil hsome
      rw [hs]
      exact .error _ _
  | .obj [] =>
    rw [Message.decodeList, Message.faultsOfList]
    exact .pure _
  | .obj (_ :: _) =>
    rw [Message.decodeList, Message.faultsOfList]
    exact .error _ _
  | .bool _ | .int _ | .float _ =>
    rw [Message.decodeList, Message.faultsOfList]
    exact .error _ _
    all_goals nofun

theorem Message.stopsAtFirst_decodeItems (items : List Json) :
    StopsAtFirst (Message.decodeItems items) (Message.faultsOfItems items) := by
  match items with
  | [] =>
    rw [Message.decodeItems, Message.faultsOfItems]
    exact .pure _
  | item :: items =>
    have hrest := Message.stopsAtFirst_decodeItems items
    by_cases hnull : item = .null
    · subst hnull
      rw [Message.decodeItems, Message.faultsOfItems]
      exact hrest.map _
    · rw [Message.decodeItems, Message.faultsOfItems]
      · exact (Message.stopsAtFirst item).bind fun _ _ => hrest.map _
      all_goals exact hnull

end

/-! ## Files and the whole schema -/

/-- The faults of a file. -/
def File.faults : Json → List DecodeFault :=
  recordFaults [requiredFaults "name" noFaults, optionalFaults "package" noFaults,
    optionalFaults "messages" (listFaults Message.faults),
    optionalFaults "enums" (listFaults Enum.faults), optionalFaults "type_url_prefix" noFaults]

/-- The faults of a document that should hold a schema. -/
def FileSet.faults : Json → List DecodeFault :=
  recordFaults [optionalFaults "files" (listFaults File.faults)]

theorem File.stopsAtFirst (value : Json) :
    StopsAtFirst (File.decode value) (File.faults value) := by
  cases value with
  | obj members =>
    exact (stopsAtFirst_required stopsAtFirst_asText "name" members).bind fun _ _ =>
      (stopsAtFirst_optional stopsAtFirst_asText "package" _ members).bind fun _ _ =>
      (stopsAtFirst_optional (stopsAtFirst_asList Message.stopsAtFirst) "messages" _
        members).bind fun _ _ =>
      (stopsAtFirst_optional (stopsAtFirst_asList Enum.stopsAtFirst) "enums" _
        members).bind fun _ _ =>
      (stopsAtFirst_optional stopsAtFirst_asText "type_url_prefix" _ members).bind fun _ _ =>
      .pure _
  | _ => exact .error _ _

/-- A document is read as a schema if it has no faults; otherwise reading ends at the first. -/
theorem FileSet.stopsAtFirst (value : Json) :
    StopsAtFirst (FileSet.decode value) (FileSet.faults value) := by
  cases value with
  | obj members =>
    exact (stopsAtFirst_optional (stopsAtFirst_asList File.stopsAtFirst) "files" _
      members).bind fun _ _ => .pure _
  | _ => exact .error _ _

end Schema

end Protogen
