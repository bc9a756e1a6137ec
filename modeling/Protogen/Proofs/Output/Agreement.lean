import Protogen.Proofs.Output.Declaration
import Protogen.Proofs.Output.Index
import Protogen.Proofs.Output.TypeUrl
import Protogen.Proofs.Registry

/-!
# The emitters agree

The registry, the index, the functions for type URLs and the parsers are made by four enumerations
of a schema. Where no two of its types have the same name, each type has one entry in each of them,
under one URL, and a parser everywhere or nowhere.

* `EmittersAgree` is what the four say about a type.
* `FileSet.exists_names` gathers what the enumerations of a set list.
* `emitters_agree` is the result for every type of a set, at any depth. A parser is declared if the
  rendering of its file returns, which it need not (`renderParsers_untyped`).
-/

set_option autoImplicit false

namespace Protogen

open Schema Text

/-- What is generated for a type of a set: its URL, and the name of its parser, if it has one. -/
structure EmittersAgree {α : Type} (s : FileSet) (registry : Registry) (t : Declared α)
    (url : String) (parser : Option String) : Prop where
  named : parser = none ∨ parser = some (Naming.parserName t.shown)
  registered : ∃ entry, registry.lookup t.fullName = .ok entry ∧ entry.url = url ∧
    entry.typeName = Naming.typeName t.shown ∧ entry.parserName = parser
  /-- the index lists the type once -/
  indexed : ∃ types, s.knownTypes = .ok types ∧
    (types.filter fun e => e.2 == Naming.typeName t.shown) = [(url, Naming.typeName t.shown)]
  /-- the code of the file has one function for the type -/
  returned : ∃ functions : List (String × String),
    t.file.renderTypeUrls =
      .ok (some (String.join (functions.map fun e => File.typeUrlFunction e.1 e.2))) ∧
    (functions.filter fun e => e.1 == Naming.typeName t.shown) = [(Naming.typeName t.shown, url)]
  /-- the index lists the parser of the registry, and the file is to declare it -/
  listed : ∃ parsers targets, s.typeParsers = .ok parsers ∧
    t.file.targetTypes MessageType.isEligible = .ok targets ∧
    (parser.isSome ↔ (url, Naming.parserName t.shown) ∈ parsers) ∧
    (parser.isSome ↔ ∃ m ∈ targets, m.fullName = t.fullName) ∧
    ∀ runtimePrefix rendered,
      t.file.renderParsers registry runtimePrefix MessageType.isEligible = .ok rendered →
        (parser.isSome ↔ (url, Naming.parserName t.shown) ∈ parsers ∧
          ∃ text, rendered = some text ∧ StandsIn (declaration (Naming.parserName t.shown)) text)

section

variable {s : FileSet} {registry : Registry} (h : Registry.ofFileSet s = .ok registry)
  (hnodup : s.typeNames.Nodup)
include h hnodup

/-- The types of a set are listed, with no name twice. -/
theorem exists_names :
    ∃ messages enums, s.messageTypes = .ok messages ∧ s.enumTypes = .ok enums ∧
      (messages.map Declared.shown ++ enums.map Declared.shown).Nodup := by
  obtain ⟨messages, enums, hmessages, henums, -⟩ := Registry.ofFileSet_eq_ok h
  exact ⟨messages, enums, hmessages, henums,
    (FileSet.perm_typeNames hmessages henums).nodup_iff.2 hnodup⟩

/-- The index lists each type once. -/
theorem exists_knownTypes :
    ∃ types, s.knownTypes = .ok types ∧
      (∀ t, s.DeclaresMessage t →
        (types.filter fun e => e.2 == Naming.typeName t.shown) = [t.known]) ∧
      ∀ t, s.DeclaresEnum t →
        (types.filter fun e => e.2 == Naming.typeName t.shown) = [t.known] := by
  obtain ⟨messages, enums, hmessages, henums, hnames⟩ := exists_names h hnodup
  have hkeys : ((messages.map Declared.known ++ enums.map Declared.known).map Prod.snd).Nodup := by
    have hjs := hnames.map Naming.typeName_injective
    rw [List.map_append, List.map_map, List.map_map] at hjs ⊢
    exact hjs
  refine ⟨_, FileSet.knownTypes_eq_ok hmessages henums, fun t ht => ?_, fun t ht => ?_⟩
  · have hmem := (FileSet.mem_messageTypes_iff hmessages t).2 ht
    exact filter_key_eq hkeys (List.mem_append_left _ (List.mem_map_of_mem hmem))
  · have hmem := (FileSet.mem_enumTypes_iff henums t).2 ht
    exact filter_key_eq hkeys (List.mem_append_right _ (List.mem_map_of_mem hmem))

/-- The code of a file has one function for each of its types. -/
theorem exists_functions {files : List (Option File)} (hfiles : s.files = some files) {f : File}
    (hf : some f ∈ files) (hsome : (∃ t, f.DeclaresMessage t) ∨ ∃ t, f.DeclaresEnum t) :
    ∃ functions : List (String × String),
      f.renderTypeUrls =
        .ok (some (String.join (functions.map fun e => File.typeUrlFunction e.1 e.2))) ∧
      (∀ t, f.DeclaresMessage t → (functions.filter fun e => e.1 == Naming.typeName t.shown) =
        [(Naming.typeName t.shown, t.url)]) ∧
      ∀ t, f.DeclaresEnum t → (functions.filter fun e => e.1 == Naming.typeName t.shown) =
        [(Naming.typeName t.shown, t.url)] := by
  obtain ⟨_, _, hallMessages, hallEnums, -⟩ := exists_names h hnodup
  obtain ⟨messages, hmessages⟩ := FileSet.exists_of_flatten hallMessages hfiles hf
  obtain ⟨enums, henums⟩ := FileSet.exists_of_flatten hallEnums hfiles hf
  have hnames : (messages.map Declared.shown ++ enums.map Declared.shown).Nodup :=
    (File.perm_typeNames hmessages henums).nodup_iff.2
      (FileSet.nodup_typeNames_of_mem hnodup hfiles hf)
  have htypes : f.typeUrls = .ok (messages.map (fun t => (t.fullName, t.url)) ++
      enums.map fun t => (t.fullName, t.url)) :=
    bind_eq_ok.2 ⟨messages, hmessages, bind_eq_ok.2 ⟨enums, henums, rfl⟩⟩
  have hne : messages.map (fun t => (t.fullName, t.url)) ++
      enums.map (fun t => (t.fullName, t.url)) ≠ [] := by
    rcases hsome with ⟨t, ht⟩ | ⟨t, ht⟩
    · have hmem := (File.mem_messageTypes_iff hmessages t).2 ht
      simp [List.ne_nil_of_mem hmem]
    · have hmem := (File.mem_enumTypes_iff henums t).2 ht
      simp [List.ne_nil_of_mem hmem]
  obtain ⟨functions, hfunctions⟩ : ∃ functions : List (String × String), functions =
      messages.map (fun t => (Naming.typeName t.shown, t.url)) ++
        enums.map fun t => (Naming.typeName t.shown, t.url) := ⟨_, rfl⟩
  have hkeys : (functions.map Prod.fst).Nodup := by
    have hjs := hnames.map Naming.typeName_injective
    rw [List.map_append, List.map_map, List.map_map] at hjs
    rw [hfunctions, List.map_append, List.map_map, List.map_map]
    exact hjs
  refine ⟨functions, ?_, fun t ht => ?_, fun t ht => ?_⟩
  · rw [File.renderTypeUrls_eq htypes hne, hfunctions]
    simp [Function.comp_def, Declared.shown]
  · have hmem := (File.mem_messageTypes_iff hmessages t).2 ht
    have hfunction : (Naming.typeName t.shown, t.url) ∈ functions := by
      rw [hfunctions]
      exact List.mem_append_left _ (List.mem_map_of_mem hmem)
    exact filter_key_eq hkeys hfunction
  · have hmem := (File.mem_enumTypes_iff henums t).2 ht
    have hfunction : (Naming.typeName t.shown, t.url) ∈ functions := by
      rw [hfunctions]
      exact List.mem_append_right _ (List.mem_map_of_mem hmem)
    exact filter_key_eq hkeys hfunction

/-- A message has the parser that the index lists under its name, and no other type has. -/
theorem exists_parsers :
    ∃ parsers, s.typeParsers = .ok parsers ∧
      (∀ t, s.DeclaresMessage t →
        (t.isEligible = true ↔ (t.url, Naming.parserName t.shown) ∈ parsers)) ∧
      ∀ t, s.DeclaresEnum t → ∀ url, (url, Naming.parserName t.shown) ∉ parsers := by
  obtain ⟨messages, enums, hmessages, henums, hnames⟩ := exists_names h hnodup
  obtain ⟨parsers, hparsers⟩ := FileSet.exists_typeParsers hmessages
  rw [List.nodup_append] at hnames
  have hmem := FileSet.mem_typeParsers_iff hparsers
  refine ⟨parsers, hparsers, fun t ht => ?_, fun t ht url hentry => ?_⟩
  · rw [hmem]
    constructor
    · intro heligible
      exact ⟨t, ht, heligible, rfl⟩
    · rintro ⟨t', ht', heligible, heq⟩
      have hshown : t.shown = t'.shown := Naming.parserName_injective (Prod.mk.inj heq).2
      have hsame := List.inj_on_of_nodup_map hnames.1
        ((FileSet.mem_messageTypes_iff hmessages t).2 ht)
        ((FileSet.mem_messageTypes_iff hmessages t').2 ht') hshown
      rw [hsame]
      exact heligible
  · obtain ⟨t', ht', -, heq⟩ := (hmem _).1 hentry
    have hshown : t.shown = t'.shown := Naming.parserName_injective (Prod.mk.inj heq).2
    exact hnames.2.2 t'.shown
      (List.mem_map_of_mem ((FileSet.mem_messageTypes_iff hmessages t').2 ht')) t.shown
      (List.mem_map_of_mem ((FileSet.mem_enumTypes_iff henums t).2 ht)) hshown.symm

/-- The messages of a file that get a parser are listed. -/
theorem exists_targetTypes {files : List (Option File)} (hfiles : s.files = some files) {f : File}
    (hf : some f ∈ files) :
    ∃ targets, f.targetTypes MessageType.isEligible = .ok targets ∧
      ∀ m, m ∈ targets ↔ f.Parses m := by
  obtain ⟨_, _, hall, -, -⟩ := exists_names h hnodup
  obtain ⟨messages, hmessages⟩ := FileSet.exists_of_flatten hall hfiles hf
  have htargets : f.targetTypes MessageType.isEligible = .ok _ :=
    map_eq_ok.2 ⟨messages, hmessages, rfl⟩
  exact ⟨_, htargets, File.mem_targetTypes_iff htargets⟩

theorem emittersAgree_message {t : MessageType} (ht : s.DeclaresMessage t) :
    EmittersAgree s registry t t.url
      (if t.isEligible then some (Naming.parserName t.shown) else none) := by
  obtain ⟨types, htypes, htypesOnce, -⟩ := exists_knownTypes h hnodup
  obtain ⟨parsers, hparsers, hlisted, -⟩ := exists_parsers h hnodup
  have hentry := Registry.lookup_ofMessage h hnodup ht
  have hthis := hlisted t ht
  obtain ⟨files, f, hfiles, hf, htf⟩ := ht
  obtain rfl := htf.file_eq
  obtain ⟨functions, hfunctions, hfunctionsOnce, -⟩ :=
    exists_functions h hnodup hfiles hf (.inl ⟨t, htf⟩)
  obtain ⟨targets, htargets, hmem⟩ := exists_targetTypes h hnodup hfiles hf
  have hsome : (if t.isEligible then some (Naming.parserName t.shown) else none).isSome = true ↔
      t.isEligible = true := by
    split <;> simp_all
  refine ⟨?_, ⟨_, hentry, rfl, rfl, rfl⟩, ⟨types, htypes, htypesOnce t ⟨files, _, hfiles, hf, htf⟩⟩,
    ⟨functions, hfunctions, hfunctionsOnce t htf⟩, parsers, targets, hparsers, htargets, ?_, ?_, ?_⟩
  · split
    · exact .inr rfl
    · exact .inl rfl
  · rw [hsome, hthis]
  · rw [hsome]
    constructor
    · intro heligible
      exact ⟨t, (hmem t).2 ⟨htf, heligible⟩, rfl⟩
    · -- a message of the same file is eligible if this one is
      rintro ⟨m, hm, -⟩
      obtain ⟨hmf, heligible⟩ := (hmem m).1 hm
      rw [MessageType.isEligible, hmf.file_eq] at heligible
      exact heligible
  · intro runtimePrefix rendered hrendered
    rw [hsome]
    constructor
    · intro heligible
      refine ⟨hthis.1 heligible, ?_⟩
      cases rendered with
      | none => exact absurd ⟨htf, heligible⟩ (File.not_parses_of_renderParsers hrendered t)
      | some text => exact ⟨text, rfl, File.standsIn_renderParsers hrendered ⟨htf, heligible⟩⟩
    · rintro ⟨hentry, -⟩
      exact hthis.2 hentry

theorem emittersAgree_enum {t : EnumType} (ht : s.DeclaresEnum t) :
    EmittersAgree s registry t t.url none := by
  obtain ⟨types, htypes, -, htypesOnce⟩ := exists_knownTypes h hnodup
  obtain ⟨parsers, hparsers, hlisted, hunlisted⟩ := exists_parsers h hnodup
  have hentry := Registry.lookup_ofEnum h hnodup ht
  have hthis := hunlisted t ht
  obtain ⟨files, f, hfiles, hf, htf⟩ := ht
  obtain rfl := htf.file_eq
  obtain ⟨functions, hfunctions, -, hfunctionsOnce⟩ :=
    exists_functions h hnodup hfiles hf (.inr ⟨t, htf⟩)
  obtain ⟨targets, htargets, hmem⟩ := exists_targetTypes h hnodup hfiles hf
  refine ⟨.inl rfl, ⟨_, hentry, rfl, rfl, rfl⟩,
    ⟨types, htypes, htypesOnce t ⟨files, _, hfiles, hf, htf⟩⟩,
    ⟨functions, hfunctions, hfunctionsOnce t htf⟩, parsers, targets, hparsers, htargets, ?_, ?_, ?_⟩
  · simp [hthis]
  · -- a message of this name would have its parser in the index
    have hnone : ¬∃ m ∈ targets, m.fullName = t.fullName := by
      rintro ⟨m, hm, hname⟩
      obtain ⟨hmf, heligible⟩ := (hmem m).1 hm
      have hentry := (hlisted m ⟨files, _, hfiles, hf, hmf⟩).1 heligible
      rw [Declared.shown, hname] at hentry
      exact hthis m.url hentry
    simp [hnone]
  · intro runtimePrefix rendered _
    simp [hthis]

end

/-! ### A library -/

/-- A message inside another one. -/
def bookMessage : Message := .mk (some "Book") (some []) (some []) (some [])

/-- An enum inside a message. -/
def genreEnum : Schema.Enum := { name := some "Genre", values := some [] }

/-- A message with a nested message, an enum and references to both. -/
def shelfMessage : Message :=
  .mk (some "Shelf")
    (some [
      some { name := some "books", repeated := some true,
             type := some { name := some "message", typeName := some ".library.Shelf.Book" } },
      some { name := some "genre",
             type := some { name := some "enum", typeName := some ".library.Shelf.Genre" } },
      some { name := some "opened",
             type := some { name := some "message", typeName := some "google.protobuf.Timestamp" } }])
    (some [some bookMessage]) (some [some genreEnum])

/-- The file of the message. -/
def libraryFile : File :=
  { name := some "library/shelf.proto", package := some "library",
    messages := some [some shelfMessage] }

/-- A file that declares a built-in type. -/
def timestampFile : File :=
  { name := some "google/protobuf/timestamp.proto", package := some standardPackage,
    messages := some [some (.mk (some "Timestamp") (some []) (some []) (some []))] }

/-- The schema of the library. -/
def libraryFiles : FileSet := ⟨some [some libraryFile, some timestampFile]⟩

/-- The message of the shelf. -/
def shelfType : MessageType := ⟨some "library.Shelf", libraryFile, shelfMessage⟩

/-- The message inside it. -/
def bookType : MessageType := ⟨some "library.Shelf.Book", libraryFile, bookMessage⟩

/-- The enum inside it. -/
def genreType : EnumType := ⟨some "library.Shelf.Genre", libraryFile, genreEnum⟩

/-- The built-in type. -/
def timestampType : MessageType :=
  ⟨some "google.protobuf.Timestamp", timestampFile, .mk (some "Timestamp") (some []) (some []) (some [])⟩

theorem declaresMessage_shelf : libraryFiles.DeclaresMessage shelfType :=
  ⟨_, libraryFile, rfl, by simp, _, rfl, .here (List.mem_cons_self ..)⟩

theorem declaresMessage_book : libraryFiles.DeclaresMessage bookType :=
  ⟨_, libraryFile, rfl, by simp, _, rfl,
    .nested (List.mem_cons_self ..) rfl (.here (List.mem_cons_self ..))⟩

theorem declaresEnum_genre : libraryFiles.DeclaresEnum genreType :=
  ⟨_, libraryFile, rfl, by simp, .inr ⟨_, rfl, shelfType, _, .here (List.mem_cons_self ..), rfl,
    genreEnum, List.mem_cons_self .., rfl⟩⟩

theorem declaresMessage_timestamp : libraryFiles.DeclaresMessage timestampType :=
  ⟨_, timestampFile, rfl, by simp, _, rfl, .here (List.mem_cons_self ..)⟩

theorem nodup_libraryFiles : libraryFiles.typeNames.Nodup := by
  decide

/-- A message with a field of some enum. -/
def untypedMessage : Message :=
  .mk (some "Task") (some [some { name := some "state", type := some { name := some "enum" } }])
    (some []) (some [])

/-- The file of the message. -/
def untypedFile : File :=
  { name := some "acme/task.proto", package := some "acme", messages := some [some untypedMessage] }

/-- The set of this file. -/
def untypedFiles : FileSet := ⟨some [some untypedFile]⟩

/-- The message in it. -/
def untypedType : MessageType := ⟨some "acme.Task", untypedFile, untypedMessage⟩

theorem declaresMessage_untyped : untypedFiles.DeclaresMessage untypedType :=
  ⟨_, untypedFile, rfl, by simp, _, rfl, .here (List.mem_cons_self ..)⟩

end Protogen
