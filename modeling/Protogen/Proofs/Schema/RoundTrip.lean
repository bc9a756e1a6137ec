import Protogen.Schema.Decode
import Protogen.Schema.Encode
import Protogen.Proofs.Failure

/-!
# Schemas that are written and read again

What is written is read back as it was, so reading brings a document into a normal form: to write
what was read and to read it again changes nothing.

* `Restores decode encode`: `decode` undoes `encode`, which writes nothing as null.
* `Restores.orNull`, `Restores.list`: parts that may be null, and lists of them.
* `Restores.required`, `Restores.optional`: the members of an object.
* `TypeRef.restores`, …, `File.restores`: one instance for each kind of declaration.
* `FileSet.decode_normal`: the whole schema.
-/

set_option autoImplicit false

namespace Protogen.Schema

variable {α : Type} {decode : Decoder α} {encode : α → Json}

/-- `decode` undoes `encode`, and nothing is written as null. -/
structure Restores (decode : Decoder α) (encode : α → Json) : Prop where
  ne_null (a : α) : encode a ≠ .null
  decode_encode (a : α) : decode (encode a) = .ok a

theorem orNull_of_ne_null {value : Json} (h : value ≠ .null) :
    orNull decode value = (decode value).map some := by
  cases value with
  | null => exact absurd rfl h
  | _ => rfl

namespace Restores

variable (h : Restores decode encode)

include h

theorem orNull (part : Option α) : orNull decode (part.elim .null encode) = .ok part := by
  cases part with
  | none => rfl
  | some a =>
    show Schema.orNull decode (encode a) = _
    rw [orNull_of_ne_null (h.ne_null a), h.decode_encode a]
    rfl

/-- A list is read back if its elements are. -/
theorem list :
    Restores (asList decode) fun items => .arr (items.map fun item => item.elim .null encode) where
  ne_null _ h := by cases h
  decode_encode items := by
    show (items.map fun item => item.elim .null encode).mapM (Schema.orNull decode) = _
    rw [mapM_eq_ok_iff, List.forall₂_map_left_iff]
    exact List.forall₂_same.2 fun item _ => h.orNull item

variable {name : String} {members : List (String × Json)} {part : Option α}

theorem required (hmember : members.lookup name = some (part.elim .null encode)) :
    Schema.required name decode members = .ok part := by
  rw [Schema.required, hmember]
  exact h.orNull part

theorem optional {default : Option α} (hmember : members.lookup name = some (part.elim .null encode)) :
    Schema.optional name default decode members = .ok part := by
  rw [Schema.optional, hmember]
  exact h.orNull part

end Restores

/-! ## The declarations -/

theorem restores_text : Restores asText .str where
  ne_null _ h := by cases h
  decode_encode _ := rfl

theorem restores_truth : Restores asTruth .bool where
  ne_null _ h := by cases h
  decode_encode _ := rfl

theorem Number.restores : Restores asNumber Number.encode where
  ne_null n := by cases n <;> nofun
  decode_encode n := by cases n <;> rfl

theorem TypeRef.restores : Restores TypeRef.decode TypeRef.encode where
  ne_null _ h := by cases h
  decode_encode t := by
    refine bind_eq_ok.2 ⟨_, rfl, ?_⟩
    refine bind_eq_ok.2 ⟨t.name, restores_text.required (by simp [encodeText]), ?_⟩
    exact bind_eq_ok.2
      ⟨t.typeName, restores_text.optional (by simp [List.lookup_cons, encodeText]), rfl⟩

theorem MapEntry.restores : Restores MapEntry.decode MapEntry.encode where
  ne_null _ h := by cases h
  decode_encode m := by
    refine bind_eq_ok.2 ⟨_, rfl, ?_⟩
    refine bind_eq_ok.2 ⟨m.key, TypeRef.restores.required (by simp), ?_⟩
    exact bind_eq_ok.2 ⟨m.value, TypeRef.restores.required (by simp [List.lookup_cons]), rfl⟩

theorem Field.restores : Restores Field.decode Field.encode where
  ne_null _ h := by cases h
  decode_encode f := by
    refine bind_eq_ok.2 ⟨_, rfl, ?_⟩
    refine bind_eq_ok.2 ⟨f.name, restores_text.required (by simp [encodeText]), ?_⟩
    refine bind_eq_ok.2 ⟨f.type, TypeRef.restores.optional (by simp [List.lookup_cons]), ?_⟩
    refine bind_eq_ok.2 ⟨f.number, Number.restores.optional (by simp [List.lookup_cons]), ?_⟩
    refine bind_eq_ok.2
      ⟨f.jsonName, restores_text.optional (by simp [List.lookup_cons, encodeText]), ?_⟩
    refine bind_eq_ok.2 ⟨f.repeated, restores_truth.optional (by simp [List.lookup_cons]), ?_⟩
    exact bind_eq_ok.2 ⟨f.map, MapEntry.restores.optional (by simp [List.lookup_cons]), rfl⟩

theorem EnumValue.restores : Restores EnumValue.decode EnumValue.encode where
  ne_null _ h := by cases h
  decode_encode v := by
    refine bind_eq_ok.2 ⟨_, rfl, ?_⟩
    refine bind_eq_ok.2 ⟨v.name, restores_text.required (by simp [encodeText]), ?_⟩
    exact bind_eq_ok.2 ⟨v.number, Number.restores.required (by simp [List.lookup_cons]), rfl⟩

theorem Enum.restores : Restores Enum.decode Enum.encode where
  ne_null _ h := by cases h
  decode_encode e := by
    refine bind_eq_ok.2 ⟨_, rfl, ?_⟩
    refine bind_eq_ok.2 ⟨e.name, restores_text.required (by simp [encodeText]), ?_⟩
    exact bind_eq_ok.2
      ⟨e.values, EnumValue.restores.list.optional (by simp [List.lookup_cons, encodeList]), rfl⟩

/-! ## Messages, with those nested in them -/

theorem Message.encode_ne_null (m : Message) : m.encode ≠ .null := by
  cases m
  rw [Message.encode]
  nofun

mutual

theorem Message.decode_encode (m : Message) : Message.decode m.encode = .ok m := by
  match m with
  | .mk name fields messages enums =>
    rw [Message.encode, Message.decode]
    refine bind_eq_ok.2 ⟨name, restores_text.required (by simp [encodeText]), ?_⟩
    refine bind_eq_ok.2
      ⟨fields, Field.restores.list.optional (by simp [List.lookup_cons, encodeList]), ?_⟩
    refine bind_eq_ok.2 ⟨messages, ?_, ?_⟩
    · rw [Message.decodeNested, if_neg (by decide), Message.decodeNested, if_neg (by decide),
        Message.decodeNested, if_pos rfl]
      exact Message.decodeList_encodeNested messages
    · exact bind_eq_ok.2
        ⟨enums, Enum.restores.list.optional (by simp [List.lookup_cons, encodeList]), rfl⟩

theorem Message.decodeList_encodeNested (messages : Option (List (Option Message))) :
    Message.decodeList (Message.encodeNested messages) = .ok messages := by
  match messages with
  | none => rw [Message.encodeNested, Message.decodeList]
  | some items =>
    rw [Message.encodeNested, Message.decodeList, Message.decodeItems_encodeItems items]
    rfl

theorem Message.decodeItems_encodeItems (items : List (Option Message)) :
    Message.decodeItems (Message.encodeItems items) = .ok items := by
  match items with
  | [] => rw [Message.encodeItems, Message.decodeItems]
  | none :: items =>
    rw [Message.encodeItems, Message.encodeItem, Message.decodeItems]
    exact bind_eq_ok.2 ⟨items, Message.decodeItems_encodeItems items, rfl⟩
  | some m :: items =>
    rw [Message.encodeItems, Message.encodeItem, Message.decodeItems]
    · refine bind_eq_ok.2 ⟨m, Message.decode_encode m, ?_⟩
      exact bind_eq_ok.2 ⟨items, Message.decodeItems_encodeItems items, rfl⟩
    · exact m.encode_ne_null

end

theorem Message.restores : Restores Message.decode Message.encode :=
  ⟨Message.encode_ne_null, Message.decode_encode⟩

/-! ## Files and the whole schema -/

theorem File.restores : Restores File.decode File.encode where
  ne_null _ h := by cases h
  decode_encode f := by
    refine bind_eq_ok.2 ⟨_, rfl, ?_⟩
    refine bind_eq_ok.2 ⟨f.name, restores_text.required (by simp [encodeText]), ?_⟩
    refine bind_eq_ok.2
      ⟨f.package, restores_text.optional (by simp [List.lookup_cons, encodeText]), ?_⟩
    refine bind_eq_ok.2
      ⟨f.messages, Message.restores.list.optional (by simp [List.lookup_cons, encodeList]), ?_⟩
    refine bind_eq_ok.2
      ⟨f.enums, Enum.restores.list.optional (by simp [List.lookup_cons, encodeList]), ?_⟩
    exact bind_eq_ok.2
      ⟨f.urlPrefix, restores_text.optional (by simp [List.lookup_cons, encodeText]), rfl⟩

theorem FileSet.restores : Restores FileSet.decode FileSet.encode where
  ne_null _ h := by cases h
  decode_encode s := by
    refine bind_eq_ok.2 ⟨_, rfl, ?_⟩
    exact bind_eq_ok.2 ⟨s.files, File.restores.list.optional (by simp [encodeList]), rfl⟩

/-- Every schema is read back from what is written of it, and reading is a normal form: a document
that is read, written and read again has the result, or the fault, of its first reading. -/
theorem FileSet.decode_normal :
    (∀ s : FileSet, FileSet.decode s.encode = .ok s) ∧
      ∀ value : Json,
        (FileSet.decode value >>= fun s => FileSet.decode s.encode) = FileSet.decode value := by
  refine ⟨FileSet.restores.decode_encode, fun value => ?_⟩
  cases hread : FileSet.decode value with
  | error fault => rfl
  | ok s => exact FileSet.restores.decode_encode s

end Protogen.Schema
