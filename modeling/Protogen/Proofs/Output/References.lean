import Protogen.Proofs.Field.References
import Protogen.Proofs.Output.Agreement
import Protogen.Proofs.Output.Balance

/-!
# References of the generated code

What a parser looks up is in the index or among the standard types, if the references of the schema
are resolved and its names can stand in the code as they are.

* `FileSet.Resolves` says where a reference of a schema leads; `hasParser_of_lookup` and
  `hasType_of_lookup` follow it through the registry to the index.
* `exists_referenceLines` lists the lines of a parser by what they refer to.
* `references_closed` is the result for every parser of a set.
* `references_spliced`: names are not quoted or escaped, so that a name may contain a reference of
  its own, and an enum may take the place of a standard message.
-/

set_option autoImplicit false

namespace Protogen

open Code Schema Text

/-! ## References of a schema -/

/-- The full name of the standard enum. -/
def nullValueType : String := Schema.standardPackage ++ ".NullValue"

namespace Schema

/-- A field that a message declares. -/
def MessageType.HasField (t : MessageType) (f : Field) : Prop :=
  ∃ fields, t.declaration.fields = some fields ∧ some f ∈ fields

namespace FileSet

/-- Where the reference of a value leads: to a type of the set or to a standard one. -/
def Resolves (s : FileSet) : ValueKind → Prop
  | .primitive _ => True
  | .enum name => (∃ t, s.DeclaresEnum t ∧ t.fullName = some name) ∨ name = nullValueType
  | .message name | .dynamic name =>
    (∃ t, s.DeclaresMessage t ∧ t.fullName = some name) ∨
      name ∈ wellKnownTypes ∧ name ≠ nullValueType

/-- A set whose fields refer to messages and enums. -/
def IsResolved (s : FileSet) : Prop :=
  ∀ t f kind, s.DeclaresMessage t → t.HasField f → f.elementKind = .ok kind → s.Resolves kind

/-- A set in which no enum takes the place of a standard message. -/
def KeepsStandardMessages (s : FileSet) : Prop :=
  ∀ t, s.DeclaresEnum t → ∀ name ∈ wellKnownTypes, t.fullName = some name → name = nullValueType

/-- A set whose names stand in the code as they are. -/
structure HasInlineNames (s : FileSet) : Prop where
  message : ∀ t, s.DeclaresMessage t → IsInline t.shown ∧ IsInline (shownName t.file.urlPrefix)
  /-- the name of an enum stands in front of a bracket -/
  enum : ∀ t, s.DeclaresEnum t → IsInline t.shown ∧ '[' ∉ t.shown.toList
  field : ∀ t f, s.DeclaresMessage t → t.HasField f → f.HasInlineNames

/-- A URL of a standard type, whether the set declares it or not. -/
def IsStandardUrl (s : FileSet) (url : String) : Prop :=
  (∃ t, s.DeclaresMessage t ∧ t.file.isStandard = true ∧ url = t.url) ∨
    ∃ name ∈ wellKnownTypes, url = (Registry.wellKnown name).url

/-- A URL with a parser: one that the index lists, or one of a standard type. -/
def HasParser (s : FileSet) (url : String) : Prop :=
  (∃ parsers parser, s.typeParsers = .ok parsers ∧ (url, parser) ∈ parsers) ∨ s.IsStandardUrl url

/-- A JavaScript type that the index lists, or the standard enum. -/
def HasType (s : FileSet) (jsType : String) : Prop :=
  (∃ types url, s.knownTypes = .ok types ∧ (url, jsType) ∈ types) ∨
    jsType = Naming.typeName nullValueType

end FileSet

end Schema

/-! ## References in the registry -/

/-- Standard names can stand in the code. -/
theorem isInline_wellKnown {name : String} (hname : name ∈ wellKnownTypes) : IsInline name := by
  obtain ⟨short, hshort, rfl⟩ := List.mem_map.1 hname
  refine isInline_append.2 ⟨by decide, ?_⟩
  revert short
  decide

section

variable {s : FileSet} {registry : Registry} (h : Registry.ofFileSet s = .ok registry)
include h

theorem hasParser_url {t : MessageType} (ht : s.DeclaresMessage t) : s.HasParser t.url := by
  obtain ⟨messages, enums, hmessages, -, -⟩ := Registry.ofFileSet_eq_ok h
  obtain ⟨parsers, hparsers⟩ := FileSet.exists_typeParsers hmessages
  by_cases heligible : t.isEligible = true
  · have hlisted := (FileSet.mem_typeParsers_iff hparsers _).2 ⟨t, ht, heligible, rfl⟩
    exact .inl ⟨parsers, t.parser, hparsers, hlisted⟩
  · have hstandard : t.file.isStandard = true := by simpa [MessageType.isEligible] using heligible
    exact .inr (.inl ⟨t, ht, hstandard, rfl⟩)

theorem hasType_typeName {t : EnumType} (ht : s.DeclaresEnum t) :
    s.HasType (Naming.typeName t.shown) := by
  obtain ⟨messages, enums, hmessages, henums, -⟩ := Registry.ofFileSet_eq_ok h
  have hlisted : t.known ∈ messages.map Declared.known ++ enums.map Declared.known :=
    List.mem_append_right _ (List.mem_map_of_mem ((FileSet.mem_enumTypes_iff henums t).2 ht))
  exact .inl ⟨_, t.url, FileSet.knownTypes_eq_ok hmessages henums, hlisted⟩

theorem typeName_of_mem_added {entry : Entry} (hentry : entry ∈ registry.added) :
    entry.typeName = Naming.typeName (shownName entry.fullName) := by
  rcases (Registry.mem_added_iff h entry).1 hentry with
    ⟨name, -, rfl⟩ | ⟨t, -, rfl⟩ | ⟨t, -, rfl⟩ <;> rfl

variable (hnodup : s.typeNames.Nodup) (hkeeps : s.KeepsStandardMessages)
  (hinline : s.HasInlineNames)
include hnodup hinline

include hkeeps in
/-- A message is looked up by a URL with a parser. -/
theorem hasParser_of_lookup {name : String} {entry : Entry}
    (hname : s.Resolves (.message name)) (hentry : registry.lookup (some name) = .ok entry) :
    s.HasParser entry.url ∧ IsInline entry.url := by
  have hdeclared : ∀ t, s.DeclaresMessage t → s.HasParser t.url ∧ IsInline t.url := by
    intro t ht
    obtain ⟨hshown, hbase⟩ := hinline.message t ht
    have hslash : IsInline "/" := by decide
    exact ⟨hasParser_url h ht, isInline_append.2 ⟨isInline_append.2 ⟨hbase, hslash⟩, hshown⟩⟩
  rcases hname with ⟨t, ht, hfull⟩ | ⟨hknown, hmessage⟩
  · have hfound := Registry.lookup_ofMessage h hnodup ht
    rw [hfull, hentry] at hfound
    cases hfound
    exact hdeclared t ht
  · obtain ⟨hmem, hfull⟩ := Registry.mem_added_of_lookup hentry
    rcases (Registry.mem_added_iff h entry).1 hmem with
      ⟨standard, hstandard, rfl⟩ | ⟨t, ht, rfl⟩ | ⟨t, ht, rfl⟩
    · have hslash : IsInline (defaultUrlPrefix ++ "/") := by decide
      exact ⟨.inr (.inr ⟨standard, hstandard, rfl⟩),
        isInline_append.2 ⟨hslash, isInline_wellKnown hstandard⟩⟩
    · exact hdeclared t ht
    · exact absurd (hkeeps t ht name hknown hfull) hmessage

/-- An enum is looked up by a JavaScript type of the index. -/
theorem hasType_of_lookup {name : String} {entry : Entry}
    (hname : s.Resolves (.enum name)) (hentry : registry.lookup (some name) = .ok entry) :
    s.HasType entry.typeName ∧ IsInline entry.typeName ∧ '[' ∉ entry.typeName.toList := by
  rcases hname with ⟨t, ht, hfull⟩ | rfl
  · have hfound := Registry.lookup_ofEnum h hnodup ht
    rw [hfull, hentry] at hfound
    cases hfound
    obtain ⟨hshown, hbracket⟩ := hinline.enum t ht
    refine ⟨hasType_typeName h ht, isInline_append.2 ⟨by decide, hshown⟩, ?_⟩
    have hproto : '[' ∉ "proto.".toList := by decide
    change '[' ∉ ("proto." ++ t.shown).toList
    rw [String.toList_append, List.mem_append, not_or]
    exact ⟨hproto, hbracket⟩
  · obtain ⟨hmem, hfull⟩ := Registry.mem_added_of_lookup hentry
    have htype := typeName_of_mem_added h hmem
    rw [hfull] at htype
    rw [htype]
    exact ⟨.inr rfl, by decide, by decide⟩

include hkeeps in
/-- The line that converts a value. -/
theorem referenceLine_value {kind : ValueKind} {raw expression : String} (hkind : s.Resolves kind)
    (hraw : IsInline raw) (hhead : ∃ c, c ≠ 'p' ∧ raw.toList.head? = some c)
    (hexpression : valueExpression kind raw registry = .ok expression) :
    ReferenceLine s.HasParser s.HasType (binding ++ expression ++ ";") := by
  cases kind with
  | primitive scalar =>
    cases hexpression
    obtain ⟨hquote, hfeed⟩ := hraw
    unfold scalarExpression
    split
    · refine .plain ?_ ?_
      · simp [IsInline, binding, valueVariable, hquote, hfeed]
      · simp [binding, valueVariable]
    · split
      · refine .plain ?_ ?_
        · simp [IsInline, binding, valueVariable, hquote, hfeed]
        · simp [binding, valueVariable]
      · refine .plain ?_ ?_
        · simp [IsInline, binding, valueVariable, hquote, hfeed]
        · obtain ⟨c, hc, hhead⟩ := hhead
          obtain ⟨rest, heq⟩ := List.head?_eq_some_iff.1 hhead
          simp [binding, valueVariable, heq, hc.symm]
  | enum name =>
    obtain ⟨entry, hentry, rfl⟩ := map_eq_ok.1 hexpression
    obtain ⟨htype, hclean, hbracket⟩ := hasType_of_lookup h hnodup hinline hkind hentry
    exact .member htype hclean hbracket hraw
  | message name =>
    obtain ⟨entry, hentry, rfl⟩ := map_eq_ok.1 hexpression
    obtain ⟨hurl, hclean⟩ := hasParser_of_lookup h hnodup hkeeps hinline hkind hentry
    exact .lookup hurl hclean hraw
  | dynamic name =>
    obtain ⟨entry, hentry, rfl⟩ := map_eq_ok.1 hexpression
    obtain ⟨hurl, hclean⟩ := hasParser_of_lookup h hnodup hkeeps hinline hkind hentry
    exact .lookup hurl hclean hraw

end

/-! ## The lines of a parser -/

section

open MessageType

variable {s : FileSet} {registry : Registry} {t : MessageType}

theorem isInline_parserName (hshown : IsInline t.shown) :
    IsInline t.parser ∧ t.parser.toList.head? = some 'p' := by
  have hproto : IsInline ("proto." ++ t.shown ++ ".Parser") :=
    isInline_append.2 ⟨isInline_append.2 ⟨by decide, hshown⟩, by decide⟩
  have hhead : ("proto." ++ t.shown ++ ".Parser").toList.head? = some 'p' := by simp
  exact ⟨hproto, hhead⟩

variable (h : Registry.ofFileSet s = .ok registry) (hnodup : s.typeNames.Nodup)
  (hresolved : s.IsResolved) (hkeeps : s.KeepsStandardMessages) (hinline : s.HasInlineNames)
  (ht : s.DeclaresMessage t) {text : String}
include hinline ht

theorem referenceLine_parserHeader {header : String} (hheader : t.ParserHeader header) :
    ReferenceLine s.HasParser s.HasType (header ++ " \x7b") := by
  obtain ⟨hparser, hhead⟩ := isInline_parserName (hinline.message t ht).1
  cases hheader with
  | declaration =>
    refine .of_head (c := 'p') ?_ (by simp [hhead]) (by decide)
    simp only [isInline_append]
    exact ⟨⟨⟨⟨hparser, by decide⟩, by decide⟩, by decide⟩, by decide⟩
  | method =>
    refine .of_head (c := 'p') ?_ (by simp [hhead]) (by decide)
    simp only [isInline_append]
    exact ⟨⟨⟨⟨⟨hparser, by decide⟩, by decide⟩, by decide⟩, by decide⟩, by decide⟩
  | isNull => exact .plain (by decide) (by decide)
  | field hfields hf hcode =>
    exact FieldToParse.referenceLine_header (hinline.field t _ ht ⟨_, hfields, hf⟩) hcode

include h hnodup hresolved hkeeps

theorem referenceLine_parserLine (hline : t.ParserLine registry text) :
    ReferenceLine s.HasParser s.HasType text := by
  obtain ⟨hshown, -⟩ := hinline.message t ht
  obtain ⟨hparser, hhead⟩ := isInline_parserName hshown
  cases hline with
  | superCall => exact .plain (by decide) (by decide)
  | inheritance =>
    refine .of_head (c := 'p') ?_ (by simp [hhead]) (by decide)
    exact isInline_append.2 ⟨hparser, by decide⟩
  | ownConstructor =>
    refine .of_head (c := 'p') ?_ (by simp [hhead]) (by decide)
    simp only [isInline_append]
    exact ⟨⟨⟨hparser, by decide⟩, hparser⟩, by decide⟩
  | nullResult => exact .plain (by decide) (by decide)
  | message =>
    have hproto : IsInline ("proto." ++ t.shown) := isInline_append.2 ⟨by decide, hshown⟩
    refine .plain ?_ ?_
    · exact isInline_append.2 ⟨isInline_append.2 ⟨by decide, hproto⟩, by decide⟩
    · simp [binding, valueVariable]
  | result => exact .plain (by decide) (by decide)
  | field hfields hf hcode =>
    have hnames := hinline.field t _ ht ⟨_, hfields, hf⟩
    refine FieldToParse.referenceLine_code hnames ?_ hcode
    intro kind raw expression hkind hraw hexpression
    obtain ⟨hclean, hhead⟩ := FieldToParse.isInline_raw hnames hraw
    have hreference := hresolved t _ kind ht ⟨_, hfields, hf⟩ hkind
    exact referenceLine_value h hnodup hkeeps hinline hreference hclean hhead hexpression

/-- A parser is made of such lines. -/
theorem exists_referenceLines (htext : t.renderParser registry = .ok text) :
    ∃ ls : List Code.Line, (∀ line ∈ ls, ReferenceLine s.HasParser s.HasType line.text) ∧
      text = String.intercalate "\n" (ls.map (Writer.indented "  ")) := by
  obtain ⟨ls, hlines, rfl⟩ := renderParser_eq_ok htext
  refine ⟨ls, fun line hline => ?_, rfl⟩
  cases hlines.isPart line hline with
  | blank => exact .plain (by decide) (by decide)
  | plain _ hplain => exact referenceLine_parserLine h hnodup hresolved hkeeps hinline ht hplain
  | opening _ hheader => exact referenceLine_parserHeader hinline ht hheader
  | otherwise =>
    have hotherwise : IsInline "\x7d else \x7b" := by decide
    exact .of_head (c := '\x7d') hotherwise (by simp) (by decide)
  | closing _ hsuffix =>
    have hclosing : ∀ suffix ∈ closingSuffixes, IsInline ("\x7d" ++ suffix) := by decide
    exact .of_head (c := '\x7d') (hclosing _ hsuffix) (by simp) (by decide)

/-- Where no two types of a set have the same name, references are resolved, no enum takes the place
of a standard message and names can stand in the code as they are, the parsers that are rendered look
up only URLs of the index or of standard types, and bind members only of the types of the index or of
the standard enum. -/
theorem references_closed (htext : t.renderParser registry = .ok text) :
    (∀ url, LooksUp text url → s.HasParser url) ∧
      ∀ jsType, BindsMember text jsType → s.HasType jsType := by
  obtain ⟨ls, hlines, rfl⟩ := exists_referenceLines h hnodup hresolved hkeeps hinline ht htext
  have hchars : (String.intercalate "\n" (ls.map (Writer.indented "  "))).toList =
      ['\n'].intercalate (ls.map fun l => (Writer.indented "  " l).toList) := by
    rw [String.toList_intercalate, List.map_map]
    rfl
  have hfeed : ∀ l ∈ ls, '\n' ∉ (Writer.indented "  " l).toList := by
    intro l hl
    obtain ⟨blanks, hblanks, hline⟩ := Writer.exists_toList_indented l
    rw [hline, List.mem_append, not_or]
    exact ⟨fun hmem => absurd (hblanks _ hmem) (by decide), (hlines l hl).no_feed⟩
  constructor
  · rintro url ⟨hurl, hlookup⟩
    rw [hchars] at hlookup
    have hword : '\n' ∉ ("parserFor('" ++ url ++ "')").toList := by simp [hurl.2]
    have hne : ("parserFor('" ++ url ++ "')").toList ≠ [] := by simp
    obtain ⟨line, hline, hinfix⟩ := exists_infix_of_intercalate hword hne hlookup
    obtain ⟨⟨depth, text⟩, hl, rfl⟩ := List.mem_map.1 hline
    exact (hlines _ hl).hasUrl hinfix
  · rintro jsType ⟨hproto, hbracket, line, hline, hbinds⟩
    obtain ⟨piece, hpiece, rfl⟩ := List.mem_map.1 hline
    rw [hchars] at hpiece
    have hpieces : ∀ line ∈ ls.map fun l => (Writer.indented "  " l).toList, '\n' ∉ line := by
      intro line hline
      obtain ⟨l, hl, rfl⟩ := List.mem_map.1 hline
      exact hfeed l hl
    rcases mem_of_mem_splitOn_intercalate hpieces hpiece with rfl | hmem
    · simp [dropLeading, binding] at hbinds
    · obtain ⟨⟨depth, text⟩, hl, rfl⟩ := List.mem_map.1 hmem
      rw [String.ofList_toList] at hbinds
      exact (hlines _ hl).hasType hproto hbracket hbinds

end

/-! ### References of a library -/

theorem declaresMessage_library_cases {t : MessageType} (ht : libraryFiles.DeclaresMessage t) :
    t = shelfType ∨ t = bookType ∨ t = timestampType := by
  have hmessages : libraryFiles.messageTypes = .ok [shelfType, bookType, timestampType] := rfl
  simpa using (FileSet.mem_messageTypes_iff hmessages t).2 ht

theorem declaresEnum_library_cases {t : EnumType} (ht : libraryFiles.DeclaresEnum t) :
    t = genreType := by
  have henums : libraryFiles.enumTypes = .ok [genreType] := rfl
  simpa using (FileSet.mem_enumTypes_iff henums t).2 ht

theorem hasField_library_cases {t : MessageType} (ht : libraryFiles.DeclaresMessage t) {f : Field}
    (hf : t.HasField f) :
    f = { name := some "books", repeated := some true,
          type := some { name := some "message", typeName := some ".library.Shelf.Book" } } ∨
    f = { name := some "genre",
          type := some { name := some "enum", typeName := some ".library.Shelf.Genre" } } ∨
    f = { name := some "opened",
          type := some { name := some "message", typeName := some "google.protobuf.Timestamp" } } := by
  obtain ⟨fields, hfields, hf⟩ := hf
  rcases declaresMessage_library_cases ht with rfl | rfl | rfl
  · cases hfields
    simpa using hf
  · cases hfields
    cases hf
  · cases hfields
    cases hf

theorem isResolved_library : libraryFiles.IsResolved := by
  intro t f kind ht hf hkind
  rcases hasField_library_cases ht hf with rfl | rfl | rfl
  · obtain rfl : ValueKind.message "library.Shelf.Book" = kind := Except.ok.inj hkind
    exact .inl ⟨bookType, declaresMessage_book, rfl⟩
  · obtain rfl : ValueKind.enum "library.Shelf.Genre" = kind := Except.ok.inj hkind
    exact .inl ⟨genreType, declaresEnum_genre, rfl⟩
  · obtain rfl : ValueKind.message "google.protobuf.Timestamp" = kind := Except.ok.inj hkind
    exact .inl ⟨timestampType, declaresMessage_timestamp, rfl⟩

theorem keepsStandardMessages_library : libraryFiles.KeepsStandardMessages := by
  intro t ht
  obtain rfl := declaresEnum_library_cases ht
  decide

theorem hasInlineNames_library : libraryFiles.HasInlineNames where
  message := by
    intro t ht
    rcases declaresMessage_library_cases ht with rfl | rfl | rfl <;> decide
  enum := by
    intro t ht
    obtain rfl := declaresEnum_library_cases ht
    decide
  field := by
    intro t f ht hf
    unfold Field.HasInlineNames
    rcases hasField_library_cases ht hf with rfl | rfl | rfl <;> decide

/-- The plans of the fields of a shelf. -/
def shelfPlans : List FieldPlan := [
  ⟨"books", "books", .message "library.Shelf.Book",
    .parsed "type.googleapis.com/library.Shelf.Book", .list⟩,
  ⟨"genre", "genre", .enum "library.Shelf.Genre", .member "proto.library.Shelf.Genre", .one⟩,
  ⟨"opened", "opened", .message "google.protobuf.Timestamp",
    .parsed "type.googleapis.com/google.protobuf.Timestamp", .one⟩]

theorem references_closed_library :
    ∃ registry text, Registry.ofFileSet libraryFiles = .ok registry ∧
      libraryFiles.typeNames.Nodup ∧ libraryFiles.IsResolved ∧
      libraryFiles.KeepsStandardMessages ∧ libraryFiles.HasInlineNames ∧
      libraryFiles.DeclaresMessage shelfType ∧ shelfType.renderParser registry = .ok text ∧
      LooksUp text "type.googleapis.com/library.Shelf.Book" ∧
      libraryFiles.HasParser "type.googleapis.com/library.Shelf.Book" ∧
      BindsMember text "proto.library.Shelf.Genre" ∧
      libraryFiles.HasType "proto.library.Shelf.Genre" := by
  obtain ⟨registry, hregistry⟩ : ∃ registry, Registry.ofFileSet libraryFiles = .ok registry :=
    ⟨_, rfl⟩
  have hnames : shelfType.hasPlainNames := by
    rintro fields ⟨⟩
    simp only [List.mem_cons, Option.some.injEq, List.not_mem_nil, or_false]
    rintro f (rfl | rfl | rfl) <;> decide
  have hplans : shelfType.plans registry = .ok shelfPlans := by
    cases hregistry
    rfl
  obtain ⟨lines, htext, hlines⟩ := MessageType.exists_lines_of_plans hnames hplans
  obtain ⟨hparsers, htypes⟩ := references_closed hregistry nodup_libraryFiles isResolved_library
    keepsStandardMessages_library hasInlineNames_library declaresMessage_shelf htext
  have hlookup : LooksUp (String.intercalate "\n" lines)
      "type.googleapis.com/library.Shelf.Book" := by
    have hline : (⟨4, "let value = TypeParsers.parserFor('type.googleapis.com/library.Shelf.Book')" ++
        ".fromObject(listItem);"⟩ : Code.Line) ∈ shelfType.codeLines shelfPlans := by
      decide +kernel
    refine .intercalate ?_ (hlines _ hline)
    decide +kernel
  have hbinds : BindsMember (String.intercalate "\n" lines) "proto.library.Shelf.Genre" := by
    have hline : (⟨3, "let value = proto.library.Shelf.Genre[obj.genre];"⟩ : Code.Line) ∈
        shelfType.codeLines shelfPlans := by
      decide +kernel
    refine .intercalate ?_ (hlines _ hline)
    decide +kernel
  exact ⟨registry, _, hregistry, nodup_libraryFiles, isResolved_library,
    keepsStandardMessages_library, hasInlineNames_library, declaresMessage_shelf, htext, hlookup,
    hparsers _ hlookup, hbinds, htypes _ hbinds⟩

/-! ### Names that are references of their own -/

/-- An enum with brackets in its name. -/
def splicedEnum : Schema.Enum := { name := some "Kind[0]", values := some [] }

/-- A message with a lookup and a statement for names. -/
def splicedMessage : Message :=
  .mk (some "Task")
    (some [
      some { name := some "id", type := some { name := some "string" },
             jsonName := some "id || TypeParsers.parserFor('nowhere')" },
      some { name := some "note", type := some { name := some "string" },
             jsonName := some "note;\nlet value = proto.Nowhere[0]" },
      some { name := some "kind",
             type := some { name := some "enum", typeName := some "acme.Kind[0]" } },
      some { name := some "due",
             type := some { name := some "message",
                            typeName := some "google.protobuf.Timestamp" } }])
    (some []) (some [])

/-- The file of both. -/
def splicedFile : File :=
  { name := some "acme/task.proto", package := some "acme", messages := some [some splicedMessage],
    enums := some [some splicedEnum] }

/-- An enum that takes the place of a standard message. -/
def shadowEnum : Schema.Enum := { name := some "Timestamp", values := some [] }

/-- The message around it. -/
def shadowMessage : Message := .mk (some "protobuf") (some []) (some []) (some [some shadowEnum])

/-- The file of the message, which is not in the standard package. -/
def shadowFile : File :=
  { name := some "google/time.proto", package := some "google", urlPrefix := some "example.org",
    messages := some [some shadowMessage] }

/-- The schema of both files. -/
def splicedFiles : FileSet := ⟨some [some splicedFile, some shadowFile]⟩

/-- The message with the spliced names. -/
def splicedType : MessageType := ⟨some "acme.Task", splicedFile, splicedMessage⟩

/-- The message around the enum. -/
def shadowType : MessageType := ⟨some "google.protobuf", shadowFile, shadowMessage⟩

/-- The plans of the fields with the spliced names. -/
def splicedPlans : List FieldPlan := [
  ⟨"id", "id || TypeParsers.parserFor('nowhere')", .primitive "string", .plain, .one⟩,
  ⟨"note", "note;\nlet value = proto.Nowhere[0]", .primitive "string", .plain, .one⟩,
  ⟨"kind", "kind", .enum "acme.Kind[0]", .member "proto.acme.Kind[0]", .one⟩,
  ⟨"due", "due", .message "google.protobuf.Timestamp",
    .parsed "example.org/google.protobuf.Timestamp", .one⟩]

theorem declaresMessage_spliced : splicedFiles.DeclaresMessage splicedType :=
  ⟨_, splicedFile, rfl, by simp, _, rfl, .here (List.mem_cons_self ..)⟩

theorem declaresMessage_spliced_cases {t : MessageType} (ht : splicedFiles.DeclaresMessage t) :
    t = splicedType ∨ t = shadowType := by
  have hmessages : splicedFiles.messageTypes = .ok [splicedType, shadowType] := rfl
  simpa using (FileSet.mem_messageTypes_iff hmessages t).2 ht

theorem isResolved_spliced : splicedFiles.IsResolved := by
  rintro t f kind ht ⟨fields, hfields, hf⟩ hkind
  rcases declaresMessage_spliced_cases ht with rfl | rfl
  · cases hfields
    simp only [List.mem_cons, Option.some.injEq, List.not_mem_nil, or_false] at hf
    rcases hf with rfl | rfl | rfl | rfl
    · obtain rfl : ValueKind.primitive "string" = kind := Except.ok.inj hkind
      trivial
    · obtain rfl : ValueKind.primitive "string" = kind := Except.ok.inj hkind
      trivial
    · obtain rfl : ValueKind.enum "acme.Kind[0]" = kind := Except.ok.inj hkind
      exact .inl ⟨⟨some "acme.Kind[0]", splicedFile, splicedEnum⟩,
        ⟨_, splicedFile, rfl, by simp, .inl ⟨_, rfl, splicedEnum, List.mem_cons_self .., rfl⟩⟩, rfl⟩
    · obtain rfl : ValueKind.message "google.protobuf.Timestamp" = kind := Except.ok.inj hkind
      exact .inr (by decide)
  · cases hfields
    cases hf

theorem not_hasParser_spliced {url : String}
    (hurls : url ∉ ["type.googleapis.com/acme.Task", "example.org/google.protobuf"])
    (hknown : ∀ name ∈ wellKnownTypes, url ≠ (Registry.wellKnown name).url) :
    ¬splicedFiles.HasParser url := by
  rintro (⟨parsers, name, hparsers, hlisted⟩ | ⟨t, ht, hstandard, -⟩ | ⟨name, hname, hurl⟩)
  · have hlist : splicedFiles.typeParsers =
        .ok [("type.googleapis.com/acme.Task", "proto.acme.Task.Parser"),
          ("example.org/google.protobuf", "proto.google.protobuf.Parser")] := rfl
    cases hlist.symm.trans hparsers
    exact hurls (List.mem_map_of_mem (f := Prod.fst) hlisted)
  · rcases declaresMessage_spliced_cases ht with rfl | rfl
    · revert hstandard
      decide
    · revert hstandard
      decide
  · exact hknown name hname hurl

theorem not_hasType_spliced {jsType : String}
    (htypes : jsType ∉ ["proto.acme.Task", "proto.google.protobuf", "proto.acme.Kind[0]",
      "proto.google.protobuf.Timestamp", "proto.google.protobuf.NullValue"]) :
    ¬splicedFiles.HasType jsType := by
  rintro (⟨types, url, hknown, hlisted⟩ | rfl)
  · have hlist : splicedFiles.knownTypes =
        .ok [("type.googleapis.com/acme.Task", "proto.acme.Task"),
          ("example.org/google.protobuf", "proto.google.protobuf"),
          ("type.googleapis.com/acme.Kind[0]", "proto.acme.Kind[0]"),
          ("example.org/google.protobuf.Timestamp", "proto.google.protobuf.Timestamp")] := rfl
    cases hlist.symm.trans hknown
    have hmem := List.mem_map_of_mem (f := Prod.snd) hlisted
    exact htypes (List.mem_append_left ["proto.google.protobuf.NullValue"] hmem)
  · exact htypes (by decide)

/-- Names are put into the code as they are: a name with quotes may look up another URL, one with a
line feed or a bracket may bind a member of another type. An enum with the name of a standard message
is looked up in its place. -/
theorem references_spliced :
    ∃ registry text, Registry.ofFileSet splicedFiles = .ok registry ∧
      splicedFiles.typeNames.Nodup ∧ splicedFiles.IsResolved ∧
      splicedFiles.DeclaresMessage splicedType ∧ splicedType.renderParser registry = .ok text ∧
      (∀ url ∈ ["nowhere", "example.org/google.protobuf.Timestamp"],
        LooksUp text url ∧ ¬splicedFiles.HasParser url) ∧
      ∀ jsType ∈ ["proto.Nowhere", "proto.acme.Kind"],
        BindsMember text jsType ∧ ¬splicedFiles.HasType jsType := by
  obtain ⟨registry, hregistry⟩ : ∃ registry, Registry.ofFileSet splicedFiles = .ok registry :=
    ⟨_, rfl⟩
  have hnames : splicedType.hasPlainNames := by
    rintro fields ⟨⟩
    simp only [List.mem_cons, Option.some.injEq, List.not_mem_nil, or_false]
    rintro f (rfl | rfl | rfl | rfl) <;> decide
  have hplans : splicedType.plans registry = .ok splicedPlans := by
    cases hregistry
    rfl
  have hnodup : splicedFiles.typeNames.Nodup := by decide
  obtain ⟨lines, htext, hlines⟩ := MessageType.exists_lines_of_plans hnames hplans
  refine ⟨registry, _, hregistry, hnodup, isResolved_spliced, declaresMessage_spliced, htext, ?_, ?_⟩
  · intro url hurl
    simp only [List.mem_cons, List.not_mem_nil, or_false] at hurl
    rcases hurl with rfl | rfl
    · have hline : (⟨1, "if (obj.id || TypeParsers.parserFor('nowhere') !== undefined) \x7b"⟩ :
          Code.Line) ∈ splicedType.codeLines splicedPlans := by
        decide +kernel
      exact ⟨.intercalate (by decide +kernel) (hlines _ hline),
        not_hasParser_spliced (by decide) (by decide)⟩
    · have hline : (⟨3, "let value = TypeParsers.parserFor('example.org/google.protobuf.Timestamp')" ++
          ".fromObject(obj.due);"⟩ : Code.Line) ∈ splicedType.codeLines splicedPlans := by
        decide +kernel
      exact ⟨.intercalate (by decide +kernel) (hlines _ hline),
        not_hasParser_spliced (by decide) (by decide)⟩
  · intro jsType hjs
    simp only [List.mem_cons, List.not_mem_nil, or_false] at hjs
    rcases hjs with rfl | rfl
    · have hline : (⟨1, "if (obj.note;\nlet value = proto.Nowhere[0] !== undefined) \x7b"⟩ :
          Code.Line) ∈ splicedType.codeLines splicedPlans := by
        decide +kernel
      exact ⟨.intercalate (by decide +kernel) (hlines _ hline), not_hasType_spliced (by decide)⟩
    · have hline : (⟨3, "let value = proto.acme.Kind[0][obj.kind];"⟩ : Code.Line) ∈
          splicedType.codeLines splicedPlans := by
        decide +kernel
      exact ⟨.intercalate (by decide +kernel) (hlines _ hline), not_hasType_spliced (by decide)⟩

end Protogen
