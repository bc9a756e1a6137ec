import Protogen.Command.Run
import Protogen.Proofs.Registry
import Protogen.Proofs.Schema.Faults
import Protogen.Proofs.Session

/-!
# Schema files that commands read

A command that reads a schema file goes on with a schema, complains about the file, or ends with a
failure that it does not report. A null in a schema is not found before its types are enumerated.

* `IsUsable`: the types of a schema can be enumerated; `isUsable_iff` says which schemas are so.
* `Settles`: reading ended with a usable schema or with a complaint about the file.
* `IsOverlooked`: the texts that are neither used nor complained about.
* `readSchema_settles_iff`: reading settles on all texts but these.
-/

set_option autoImplicit false

namespace Protogen.Command

open Schema

/-- A schema of which the messages and the enums can be listed and the registry made. -/
structure IsUsable (s : FileSet) : Prop where
  messages : ∃ types, s.messageTypes = .ok types
  enums : ∃ types, s.enumTypes = .ok types
  registry : ∃ registry, Registry.ofFileSet s = .ok registry

theorem isUsable_iff {s : FileSet} : IsUsable s ↔ s.IsWalkable := by
  constructor
  · intro h
    exact FileSet.exists_enumTypes_iff.1 h.enums
  · intro h
    exact ⟨FileSet.exists_messageTypes h, FileSet.exists_enumTypes_iff.2 h,
      Registry.exists_ofFileSet_iff.2 h⟩

/-- A complaint that a schema file cannot be read. -/
def IsComplaintAbout (file : String) (abort : Abort) : Prop :=
  ∃ reason, abort = .complaint (.reported ("Cannot read schema " ++ file ++ ": " ++ reason))

/-- Reading a schema file ended with a schema that can be used or with a complaint. -/
def Settles (file : String) (result : Except Abort FileSet) : Prop :=
  match result with
  | .ok s => IsUsable s
  | .error abort => IsComplaintAbout file abort

/-- The texts of schema files that are neither used nor complained about. -/
inductive IsOverlooked (text : String) : Prop
  /-- lists or objects that are too deep inside of each other -/
  | tooDeep {isList : Bool} (h : Json.parse text = .error (.tooDeep isList))
  /-- a document whose first fault is a part that should be an object, or an infinite number -/
  | fault {document : Json} {fault : DecodeFault} (h : Json.parse text = .ok document)
    (hfirst : (FileSet.faults document).head? = some fault)
    (hfault : fault = .notObject ∨ fault = .infiniteNumber)
  /-- a schema with a null on the way to its types -/
  | null {document : Json} {s : FileSet} (h : Json.parse text = .ok document)
    (hread : FileSet.decode document = .ok s) (hnull : ¬s.IsWalkable)

theorem IsOverlooked.iff_of_error {text : String} {failure : Json.Failure}
    (h : Json.parse text = .error failure) :
    IsOverlooked text ↔ ∃ isList, failure = .tooDeep isList := by
  constructor
  · rintro (hdeep | ⟨hdocument, -, -⟩ | ⟨hdocument, -, -⟩)
    · exact ⟨_, Except.error.inj (h.symm.trans hdeep)⟩
    · cases h.symm.trans hdocument
    · cases h.symm.trans hdocument
  · rintro ⟨isList, rfl⟩
    exact .tooDeep h

theorem IsOverlooked.iff_of_document {text : String} {document : Json}
    (h : Json.parse text = .ok document) :
    IsOverlooked text ↔
      FileSet.decode document = .error .notObject ∨
        FileSet.decode document = .error .infiniteNumber ∨
          ∃ s, FileSet.decode document = .ok s ∧ ¬s.IsWalkable := by
  have hfirst : ∀ fault, FileSet.decode document = .error fault ↔
      (FileSet.faults document).head? = some fault :=
    fun _ => (FileSet.stopsAtFirst document).eq_error_iff
  constructor
  · rintro (hdeep | ⟨hdocument, hfault, rfl | rfl⟩ | ⟨hdocument, hread, hnull⟩)
    · cases h.symm.trans hdeep
    · cases h.symm.trans hdocument
      exact .inl ((hfirst _).2 hfault)
    · cases h.symm.trans hdocument
      exact .inr (.inl ((hfirst _).2 hfault))
    · cases h.symm.trans hdocument
      exact .inr (.inr ⟨_, hread, hnull⟩)
  · rintro (hfault | hfault | ⟨s, hread, hnull⟩)
    · exact .fault h ((hfirst _).1 hfault) (.inl rfl)
    · exact .fault h ((hfirst _).1 hfault) (.inr rfl)
    · exact .null h hread hnull

/-! ## What reading ends with -/

theorem isComplaintAbout_badSchema_iff {file : String} {failure : Failure} :
    IsComplaintAbout file (badSchema file failure) ↔ isBadSchema failure = true := by
  unfold badSchema IsComplaintAbout
  split
  case isTrue h => simp [h]
  case isFalse h => simp [h]

theorem isBadSchema_json_iff {failure : Json.Failure} :
    isBadSchema (.json failure) = true ↔ ¬∃ isList, failure = .tooDeep isList := by
  cases failure <;> simp [isBadSchema]

theorem isBadSchema_document_iff {fault : DecodeFault} :
    isBadSchema (.document fault) = true ↔ ¬(fault = .notObject ∨ fault = .infiniteNumber) := by
  cases fault <;> simp [isBadSchema]

/-- Reading a text settles unless the text is overlooked. -/
theorem settles_read_iff {file text : String} :
    Settles file ((FileSet.read text).mapError (badSchema file)) ↔ ¬IsOverlooked text := by
  rw [FileSet.read]
  cases hparse : Json.parse text with
  | error failure =>
    rw [IsOverlooked.iff_of_error hparse]
    exact isComplaintAbout_badSchema_iff.trans isBadSchema_json_iff
  | ok document =>
    rw [IsOverlooked.iff_of_document hparse]
    show Settles file ((failing .document (FileSet.decode document)).mapError (badSchema file)) ↔ _
    cases FileSet.decode document with
    | error fault =>
      refine isComplaintAbout_badSchema_iff.trans (isBadSchema_document_iff.trans ?_)
      simp
    | ok s =>
      refine isUsable_iff.trans ?_
      simp

/-- Reading a schema file takes its text and looks at nothing else. -/
theorem run_readSchema {file text : String} {c : Console}
    (h : c.workspace.files.readText (Path.read file) = .ok text) :
    (readSchema file).run c = ((FileSet.read text).mapError (badSchema file), c) := by
  have hsession : (Action.session .escaped (Session.readText (Path.read file))).run c =
      (.ok text, c) := by
    show (let (result, workspace) := (Session.readText (Path.read file)).run c.workspace
      (result.mapError Abort.escaped, { c with workspace := workspace })) = _
    rw [Session.run_readText h]
    rfl
  rw [readSchema, run_bind, hsession]
  rfl

/-- A command that reads a schema file goes on with a usable schema or complains about the file,
unless the text is too deep, its first fault is a part that is no object or an infinite number, or
a null stands on the way to a type. -/
theorem readSchema_settles_iff {file text : String} {c : Console}
    (h : c.workspace.files.readText (Path.read file) = .ok text) :
    Settles file ((readSchema file).run c).1 ↔ ¬IsOverlooked text := by
  rw [run_readSchema h]
  exact settles_read_iff

/-! ### A list in place of a schema -/

/-- A workspace with a schema file that holds an empty list. -/
def listConsole : Console := ⟨⟨⟨[], [(["s.json"], .file "[]")]⟩, []⟩, ""⟩

theorem parse_emptyList : Json.parse "[]" = .ok (.arr []) := by
  cbv

/-- The command does not settle on a schema file that holds an empty list. -/
theorem readSchema_settles_list :
    listConsole.workspace.files.readText (Path.read "s.json") = .ok "[]" ∧
      ¬Settles "s.json" ((readSchema "s.json").run listConsole).1 := by
  have htext : listConsole.workspace.files.readText (Path.read "s.json") = .ok "[]" := by
    decide +kernel
  refine ⟨htext, fun hsettles => ?_⟩
  exact (readSchema_settles_iff htext).1 hsettles (.fault parse_emptyList rfl (.inl rfl))

end Protogen.Command
