import Protogen.Proofs.Failure
import Protogen.Schema.Types

/-!
# The types that a schema declares, at any depth

* `Declares` follows nested messages from a list of messages to a type; `File.DeclaresMessage` and
  `File.DeclaresEnum` are the types of a file.
* `FileSet.IsComplete` says that no part of a set that is wanted is null, `FileSet.IsWalkable` that
  none is on the way to its types.
* `messages_induction` is the induction over nested messages, `walkItems_cons_eq_ok_iff` the step of
  the enumeration.
* `mem_walkItems_iff` and `exists_walkItems_iff` are about the enumeration of the declarations of a
  list of messages: it lists what is declared, no more and no less, and does not fail exactly if
  the messages are walkable. `FileSet.exists_enumTypes_iff` says so of a whole set.
-/

set_option autoImplicit false

namespace Protogen.Schema

variable {α β : Type}

/-! ## Declared types -/

/-- The message types that a list of messages declares in a scope, at any depth. -/
inductive Declares (file : File) : Option String → List (Option Message) → MessageType → Prop
  | here {scope : Option String} {messages : List (Option Message)} {m : Message}
    (h : some m ∈ messages) : Declares file scope messages ⟨qualify file.package scope m.name, file, m⟩
  | nested {scope : Option String} {messages nested : List (Option Message)} {m : Message}
    {t : MessageType} (h : some m ∈ messages) (hnested : m.messages = some nested)
    (ht : Declares file (qualify file.package scope m.name) nested t) :
    Declares file scope messages t

/-- The enum types that a list of enums declares in a scope. -/
def DeclaresEnumIn (file : File) (scope : Option String) (enums : List (Option Enum))
    (t : EnumType) : Prop :=
  ∃ e, some e ∈ enums ∧ t = ⟨qualify file.package scope e.name, file, e⟩

/-- The enum types that the messages of a list declare in a scope, at any depth. -/
def DeclaresEnum (file : File) (scope : Option String) (messages : List (Option Message))
    (t : EnumType) : Prop :=
  ∃ m enums, Declares file scope messages m ∧ m.declaration.enums = some enums ∧
    DeclaresEnumIn file m.fullName enums t

/-- The message types of a file. -/
def File.DeclaresMessage (f : File) (t : MessageType) : Prop :=
  ∃ messages, f.messages = some messages ∧ Declares f none messages t

/-- The enum types of a file. -/
def File.DeclaresEnum (f : File) (t : EnumType) : Prop :=
  (∃ enums, f.enums = some enums ∧ DeclaresEnumIn f none enums t) ∨
    ∃ messages, f.messages = some messages ∧ Schema.DeclaresEnum f none messages t

/-- The message types of a set. -/
def FileSet.DeclaresMessage (s : FileSet) (t : MessageType) : Prop :=
  ∃ files f, s.files = some files ∧ some f ∈ files ∧ f.DeclaresMessage t

/-- The enum types of a set. -/
def FileSet.DeclaresEnum (s : FileSet) (t : EnumType) : Prop :=
  ∃ files f, s.files = some files ∧ some f ∈ files ∧ f.DeclaresEnum t

theorem not_declares_nil {file : File} {scope : Option String} {t : MessageType} :
    ¬Declares file scope [] t := by
  intro h
  cases h with
  | here h => cases h
  | nested h hnested ht => cases h

/-- A type that is declared in a file belongs to it. -/
theorem Declares.file_eq {file : File} {scope : Option String} {messages : List (Option Message)}
    {t : MessageType} (h : Declares file scope messages t) : t.file = file := by
  induction h with
  | here => rfl
  | nested _ _ _ ih => exact ih

theorem declares_cons_iff {file : File} {scope : Option String} {m : Message}
    {messages : List (Option Message)} {t : MessageType} :
    Declares file scope (some m :: messages) t ↔
      t = ⟨qualify file.package scope m.name, file, m⟩ ∨
        (∃ nested, m.messages = some nested ∧
          Declares file (qualify file.package scope m.name) nested t) ∨
        Declares file scope messages t := by
  constructor
  · intro h
    cases h with
    | here h =>
      rcases List.mem_cons.1 h with heq | h
      · cases heq
        exact .inl rfl
      · exact .inr (.inr (.here h))
    | nested h hnested ht =>
      rcases List.mem_cons.1 h with heq | h
      · cases heq
        exact .inr (.inl ⟨_, hnested, ht⟩)
      · exact .inr (.inr (.nested h hnested ht))
  · rintro (rfl | ⟨nested, hnested, ht⟩ | h)
    · exact .here (List.mem_cons_self ..)
    · exact .nested (List.mem_cons_self ..) hnested ht
    · cases h with
      | here h => exact .here (List.mem_cons_of_mem _ h)
      | nested h hnested ht => exact .nested (List.mem_cons_of_mem _ h) hnested ht

theorem declaresEnum_cons_iff {file : File} {scope : Option String} {m : Message}
    {messages : List (Option Message)} {t : EnumType} :
    DeclaresEnum file scope (some m :: messages) t ↔
      (∃ enums, m.enums = some enums ∧
        DeclaresEnumIn file (qualify file.package scope m.name) enums t) ∨
        (∃ nested, m.messages = some nested ∧
          DeclaresEnum file (qualify file.package scope m.name) nested t) ∨
        DeclaresEnum file scope messages t := by
  constructor
  · rintro ⟨around, enums, haround, henums, ht⟩
    rcases declares_cons_iff.1 haround with rfl | ⟨nested, hnested, hin⟩ | hrest
    · exact .inl ⟨enums, henums, ht⟩
    · exact .inr (.inl ⟨nested, hnested, around, enums, hin, henums, ht⟩)
    · exact .inr (.inr ⟨around, enums, hrest, henums, ht⟩)
  · rintro (⟨enums, henums, ht⟩ | ⟨nested, hnested, around, enums, hin, henums, ht⟩ |
      ⟨around, enums, hrest, henums, ht⟩)
    · exact ⟨_, enums, declares_cons_iff.2 (.inl rfl), henums, ht⟩
    · exact ⟨around, enums, declares_cons_iff.2 (.inr (.inl ⟨nested, hnested, hin⟩)), henums, ht⟩
    · exact ⟨around, enums, declares_cons_iff.2 (.inr (.inr hrest)), henums, ht⟩

theorem File.DeclaresMessage.file_eq {f : File} {t : MessageType} (h : f.DeclaresMessage t) :
    t.file = f := by
  obtain ⟨messages, -, ht⟩ := h
  exact ht.file_eq

theorem File.DeclaresEnum.file_eq {f : File} {t : EnumType} (h : f.DeclaresEnum t) :
    t.file = f := by
  rcases h with ⟨enums, -, e, -, rfl⟩ | ⟨messages, -, m, enums, -, -, e, -, rfl⟩
  · rfl
  · rfl

/-! ## Complete schemas -/

/-- A list that is there and has no null. -/
def IsFull (items : Option (List (Option α))) : Prop := ∃ list, items = some list ∧ none ∉ list

/-- A field with a name, and with types for the keys and values of a map. -/
structure Field.IsComplete (f : Field) : Prop where
  name : f.name ≠ none
  map : ∀ entry, f.map = some entry → entry.key ≠ none ∧ entry.value ≠ none

/-- A message with all its lists. -/
structure Message.IsComplete (m : Message) : Prop where
  fields : IsFull m.fields
  messages : IsFull m.messages
  enums : IsFull m.enums
  each : ∀ fields, m.fields = some fields → ∀ f, some f ∈ fields → f.IsComplete

/-- A file with a name and all its lists, down to the messages at any depth. -/
structure File.IsComplete (f : File) : Prop where
  name : f.name ≠ none
  messages : IsFull f.messages
  enums : IsFull f.enums
  each : ∀ t, f.DeclaresMessage t → t.declaration.IsComplete

/-- A set without nulls. -/
structure FileSet.IsComplete (s : FileSet) : Prop where
  files : IsFull s.files
  each : ∀ files, s.files = some files → ∀ f, some f ∈ files → f.IsComplete

/-- A message with its lists of types. -/
structure Message.IsWalkable (m : Message) : Prop where
  messages : IsFull m.messages
  enums : IsFull m.enums

/-- A file with its lists of types, down to the messages at any depth. -/
structure File.IsWalkable (f : File) : Prop where
  messages : IsFull f.messages
  enums : IsFull f.enums
  each : ∀ t, f.DeclaresMessage t → t.declaration.IsWalkable

/-- A set without nulls on the way to its types. -/
structure FileSet.IsWalkable (s : FileSet) : Prop where
  files : IsFull s.files
  each : ∀ files, s.files = some files → ∀ f, some f ∈ files → f.IsWalkable

theorem Message.IsComplete.isWalkable {m : Message} (h : m.IsComplete) : m.IsWalkable :=
  ⟨h.messages, h.enums⟩

theorem File.IsComplete.isWalkable {f : File} (h : f.IsComplete) : f.IsWalkable :=
  ⟨h.messages, h.enums, fun t ht => (h.each t ht).isWalkable⟩

theorem FileSet.IsComplete.isWalkable {s : FileSet} (h : s.IsComplete) : s.IsWalkable :=
  ⟨h.files, fun files hfiles f hf => (h.each files hfiles f hf).isWalkable⟩

/-! ## Enumerations -/

theorem wanted_eq_ok_iff {items : Option (List α)} {list : List α} :
    wanted items = .ok list ↔ items = some list := by
  cases items <;> simp [wanted]

theorem declared_eq_ok_iff {item : Option α} {a : α} : declared item = .ok a ↔ item = some a := by
  cases item <;> simp [declared]

/-- The results for the items of a list, none of which may be null. -/
theorem mem_mapM_declared_iff {g : α → Except NullPart β} {items : List (Option α)}
    {results : List β} (h : items.mapM (fun item => declared item >>= g) = .ok results) (b : β) :
    b ∈ results ↔ ∃ a, some a ∈ items ∧ g a = .ok b := by
  rw [mem_mapM_iff h]
  constructor
  · rintro ⟨item, hmem, hb⟩
    cases item with
    | none => cases hb
    | some a => exact ⟨a, hmem, hb⟩
  · rintro ⟨a, hmem, hb⟩
    exact ⟨some a, hmem, hb⟩

/-- There are results for the items of a list if none is null and there is one for each. -/
theorem exists_mapM_declared_iff {g : α → Except NullPart β} {items : List (Option α)} :
    (∃ results, items.mapM (fun item => declared item >>= g) = .ok results) ↔
      none ∉ items ∧ ∀ a, some a ∈ items → ∃ b, g a = .ok b := by
  rw [exists_mapM_iff]
  constructor
  · intro h
    refine ⟨fun hnull => ?_, fun a ha => h (some a) ha⟩
    obtain ⟨b, hb⟩ := h none hnull
    cases hb
  · rintro ⟨hfull, h⟩ item hmem
    cases item with
    | none => exact absurd hmem hfull
    | some a => exact h a hmem

theorem mem_enumsIn_iff {file : File} {scope : Option String}
    {enums : Option (List (Option Enum))} {types : List EnumType}
    (h : enumsIn file scope enums = .ok types) (t : EnumType) :
    t ∈ types ↔ ∃ list, enums = some list ∧ DeclaresEnumIn file scope list t := by
  cases enums with
  | none => cases h
  | some list =>
    rw [mem_mapM_declared_iff
      (g := fun e : Enum => .ok (⟨qualify file.package scope e.name, file, e⟩ : EnumType)) h]
    simp only [Except.ok.injEq, Option.some.injEq, exists_eq_left', DeclaresEnumIn, eq_comm]

theorem exists_enumsIn_iff (file : File) (scope : Option String)
    {enums : Option (List (Option Enum))} :
    (∃ types, enumsIn file scope enums = .ok types) ↔ IsFull enums := by
  cases enums with
  | none =>
    constructor
    · rintro ⟨types, h⟩
      cases h
    · rintro ⟨list, h, -⟩
      cases h
  | some list =>
    refine (exists_mapM_declared_iff
      (g := fun e : Enum => .ok (⟨qualify file.package scope e.name, file, e⟩ : EnumType))).trans ?_
    simp [IsFull]

/-- Induction over messages and those inside of them. A null stops every walk, so nothing is assumed
of what is behind it. -/
@[elab_as_elim]
theorem messages_induction {motive : List (Option Message) → Prop} (nil : motive [])
    (null : ∀ messages, motive (none :: messages))
    (cons : ∀ (m : Message) (messages : List (Option Message)),
      (∀ nested, m.messages = some nested → motive nested) → motive messages →
        motive (some m :: messages)) (messages : List (Option Message)) : motive messages := by
  match messages with
  | [] => exact nil
  | none :: messages => exact null messages
  | some (.mk name fields none enums) :: messages =>
    refine cons _ messages ?_ (messages_induction nil null cons messages)
    rintro nested ⟨⟩
  | some (.mk name fields (some inner) enums) :: messages =>
    refine cons _ messages ?_ (messages_induction nil null cons messages)
    rintro nested ⟨⟩
    exact messages_induction nil null cons inner
termination_by sizeOf messages

/-- The first message is enumerated before those behind it, and before what is inside of it. -/
theorem walkItems_cons_eq_ok_iff {file : File} {scope : Option String} {m : Message}
    {messages : List (Option Message)} {ds : List (MessageType ⊕ EnumType)} :
    walkItems file scope (some m :: messages) = .ok ds ↔ ∃ nested own inside rest,
      m.messages = some nested ∧
      enumsIn file (qualify file.package scope m.name) m.enums = .ok own ∧
      walkItems file (qualify file.package scope m.name) nested = .ok inside ∧
      walkItems file scope messages = .ok rest ∧
      ds = .inl ⟨qualify file.package scope m.name, file, m⟩ :: own.map .inr ++ inside ++ rest := by
  obtain ⟨name, fields, nested, enums⟩ := m
  constructor
  · intro h
    obtain ⟨first, hfirst, h⟩ := bind_eq_ok.1 h
    obtain ⟨rest, hrest, h⟩ := bind_eq_ok.1 h
    cases h
    obtain ⟨own, hown, hfirst⟩ := bind_eq_ok.1 hfirst
    obtain ⟨inside, hinside, hfirst⟩ := bind_eq_ok.1 hfirst
    cases hfirst
    cases nested with
    | none => cases hinside
    | some nested => exact ⟨nested, own, inside, rest, rfl, hown, hinside, hrest, rfl⟩
  · rintro ⟨nested, own, inside, rest, ⟨⟩, hown, hinside, hrest, rfl⟩
    exact bind_eq_ok.2 ⟨_, bind_eq_ok.2 ⟨own, hown, bind_eq_ok.2 ⟨inside, hinside, rfl⟩⟩,
      bind_eq_ok.2 ⟨rest, hrest, rfl⟩⟩

/-- What is enumerated of a list of messages is what the list declares. -/
theorem mem_walkItems_iff {file : File} {scope : Option String} {messages : List (Option Message)}
    {ds : List (MessageType ⊕ EnumType)} (h : walkItems file scope messages = .ok ds) :
    (∀ t, Sum.inl t ∈ ds ↔ Declares file scope messages t) ∧
      ∀ t, Sum.inr t ∈ ds ↔ DeclaresEnum file scope messages t := by
  induction messages using messages_induction generalizing scope ds with
  | nil =>
    cases h
    simp [DeclaresEnum, not_declares_nil]
  | null messages => cases h
  | cons m messages ihInside ihBehind =>
    obtain ⟨nested, own, inside, rest, hnested, hown, hinside, hrest, rfl⟩ :=
      walkItems_cons_eq_ok_iff.1 h
    obtain ⟨hinnerMessages, hinnerEnums⟩ := ihInside nested hnested hinside
    obtain ⟨hrestMessages, hrestEnums⟩ := ihBehind hrest
    refine ⟨fun t => ?_, fun t => ?_⟩
    · rw [declares_cons_iff]
      simp [hinnerMessages, hrestMessages, hnested]
    · rw [declaresEnum_cons_iff]
      simp [mem_enumsIn_iff hown, hinnerEnums, hrestEnums, hnested]

/-- The enumeration of a list of messages does not fail exactly if none is null and all that are
declared, at any depth, are walkable. -/
theorem exists_walkItems_iff {file : File} (scope : Option String)
    (messages : List (Option Message)) :
    (∃ ds, walkItems file scope messages = .ok ds) ↔
      none ∉ messages ∧ ∀ t, Declares file scope messages t → t.declaration.IsWalkable := by
  induction messages using messages_induction generalizing scope with
  | nil =>
    exact ⟨fun _ => ⟨List.not_mem_nil, fun t ht => absurd ht not_declares_nil⟩, fun _ => ⟨[], rfl⟩⟩
  | null messages =>
    constructor
    · rintro ⟨ds, h⟩
      cases h
    · rintro ⟨hfull, -⟩
      exact absurd (List.mem_cons_self ..) hfull
  | cons m messages ihInside ihBehind =>
    constructor
    · rintro ⟨ds, h⟩
      obtain ⟨nested, own, inside, rest, hmessages, hown, hinside, hrest, -⟩ :=
        walkItems_cons_eq_ok_iff.1 h
      obtain ⟨hfull, hbehind⟩ := (ihBehind scope).1 ⟨rest, hrest⟩
      obtain ⟨hinner, hnested⟩ := (ihInside nested hmessages _).1 ⟨inside, hinside⟩
      refine ⟨by simpa using hfull, fun t ht => ?_⟩
      rcases declares_cons_iff.1 ht with rfl | ⟨nested', hmessages', ht⟩ | ht
      · exact ⟨⟨nested, hmessages, hinner⟩, (exists_enumsIn_iff ..).1 ⟨own, hown⟩⟩
      · cases hmessages.symm.trans hmessages'
        exact hnested t ht
      · exact hbehind t ht
    · rintro ⟨hfull, heach⟩
      have hthis := heach _ (declares_cons_iff.2 (.inl rfl))
      obtain ⟨nested, hmessages, hinner⟩ := hthis.messages
      obtain ⟨own, hown⟩ :=
        (exists_enumsIn_iff file (qualify file.package scope m.name)).2 hthis.enums
      obtain ⟨inside, hinside⟩ := (ihInside nested hmessages (qualify file.package scope m.name)).2
        ⟨hinner, fun t ht => heach t (declares_cons_iff.2 (.inr (.inl ⟨nested, hmessages, ht⟩)))⟩
      obtain ⟨rest, hrest⟩ := (ihBehind scope).2
        ⟨fun h => hfull (List.mem_cons_of_mem _ h),
          fun t ht => heach t (declares_cons_iff.2 (.inr (.inr ht)))⟩
      exact ⟨_, walkItems_cons_eq_ok_iff.2
        ⟨nested, own, inside, rest, hmessages, hown, hinside, hrest, rfl⟩⟩

theorem File.mem_declarations_iff {f : File} {ds : List (MessageType ⊕ EnumType)}
    (h : f.declarations = .ok ds) :
    ∃ messages, f.messages = some messages ∧
      (∀ t, Sum.inl t ∈ ds ↔ Declares f none messages t) ∧
        ∀ t, Sum.inr t ∈ ds ↔ Schema.DeclaresEnum f none messages t := by
  unfold File.declarations at h
  cases hmessages : f.messages with
  | none =>
    rw [hmessages] at h
    cases h
  | some messages =>
    rw [hmessages] at h
    exact ⟨messages, rfl, mem_walkItems_iff h⟩

theorem File.exists_declarations_iff {f : File} :
    (∃ ds, f.declarations = .ok ds) ↔
      IsFull f.messages ∧ ∀ t, f.DeclaresMessage t → t.declaration.IsWalkable := by
  unfold File.declarations File.DeclaresMessage
  cases hmessages : f.messages with
  | none => simp [walk, IsFull]
  | some messages =>
    rw [walk, exists_walkItems_iff]
    simp [IsFull]

theorem File.exists_declarations {f : File} (h : f.IsWalkable) : ∃ ds, f.declarations = .ok ds :=
  exists_declarations_iff.2 ⟨h.messages, h.each⟩

/-- The message types that are listed of a file. -/
theorem File.mem_messageTypes_iff {f : File} {types : List MessageType}
    (h : f.messageTypes = .ok types) (t : MessageType) : t ∈ types ↔ f.DeclaresMessage t := by
  unfold File.messageTypes at h
  cases hds : f.declarations with
  | error part =>
    rw [hds] at h
    cases h
  | ok ds =>
    rw [hds] at h
    cases h
    obtain ⟨messages, hmessages, hin, -⟩ := f.mem_declarations_iff hds
    simp [hin, File.DeclaresMessage, hmessages]

/-- The message types of a complete file. -/
theorem File.messageTypes_spec {f : File} (h : f.IsComplete) :
    ∃ types, f.messageTypes = .ok types ∧ ∀ t, t ∈ types ↔ f.DeclaresMessage t := by
  obtain ⟨ds, hds⟩ := f.exists_declarations h.isWalkable
  have htypes : f.messageTypes = .ok (ds.filterMap Sum.getLeft?) := by
    rw [File.messageTypes, hds]
    rfl
  exact ⟨_, htypes, f.mem_messageTypes_iff htypes⟩

/-- The enum types that are listed of a file. -/
theorem File.mem_enumTypes_iff {f : File} {types : List EnumType} (h : f.enumTypes = .ok types)
    (t : EnumType) : t ∈ types ↔ f.DeclaresEnum t := by
  obtain ⟨own, hown, h⟩ := bind_eq_ok.1 h
  obtain ⟨ds, hds, h⟩ := bind_eq_ok.1 h
  cases h
  obtain ⟨messages, hmessages, -, hin⟩ := f.mem_declarations_iff hds
  simp [hin, mem_enumsIn_iff hown, File.DeclaresEnum, hmessages]

/-- The enum types of a file are listed exactly if the file is walkable. -/
theorem File.exists_enumTypes_iff {f : File} : (∃ types, f.enumTypes = .ok types) ↔ f.IsWalkable := by
  constructor
  · rintro ⟨types, h⟩
    obtain ⟨own, hown, h⟩ := bind_eq_ok.1 h
    obtain ⟨ds, hds, -⟩ := bind_eq_ok.1 h
    obtain ⟨hmessages, heach⟩ := exists_declarations_iff.1 ⟨ds, hds⟩
    exact ⟨hmessages, (exists_enumsIn_iff ..).1 ⟨own, hown⟩, heach⟩
  · intro h
    obtain ⟨ds, hds⟩ := f.exists_declarations h
    obtain ⟨own, hown⟩ := (exists_enumsIn_iff f none).2 h.enums
    exact ⟨_, bind_eq_ok.2 ⟨own, hown, bind_eq_ok.2 ⟨ds, hds, rfl⟩⟩⟩

/-- What is listed of every file of a set. -/
theorem FileSet.mem_flatten_iff {s : FileSet} {list : File → Except NullPart (List β)}
    {Lists : File → β → Prop}
    (hlist : ∀ f items, list f = .ok items → ∀ b, b ∈ items ↔ Lists f b) {items : List β}
    (h : (do
      let lists ← (← s.fileList).mapM fun item => do list (← declared item)
      pure lists.flatten) = .ok items) (b : β) :
    b ∈ items ↔ ∃ files f, s.files = some files ∧ some f ∈ files ∧ Lists f b := by
  obtain ⟨files, hfiles, h⟩ := bind_eq_ok.1 h
  obtain ⟨lists, hlists, h⟩ := bind_eq_ok.1 h
  cases h
  have hset : s.files = some files := wanted_eq_ok_iff.1 hfiles
  have hmem := mem_mapM_declared_iff hlists
  rw [List.mem_flatten]
  constructor
  · rintro ⟨items, hitems, hb⟩
    obtain ⟨f, hf, hok⟩ := (hmem items).1 hitems
    exact ⟨files, f, hset, hf, (hlist f items hok b).1 hb⟩
  · rintro ⟨files', f, hfiles', hf, hb⟩
    obtain rfl := Option.some.inj (hset.symm.trans hfiles')
    obtain ⟨items, hok⟩ := exists_mapM_iff.1 ⟨lists, hlists⟩ (some f) hf
    exact ⟨items, (hmem items).2 ⟨f, hf, hok⟩, (hlist f items hok b).2 hb⟩

/-- A set is listed exactly if it has files, none of them null, and each of them is listed. -/
theorem FileSet.exists_flatten_iff {s : FileSet} {list : File → Except NullPart (List β)} :
    (∃ items, (do
      let lists ← (← s.fileList).mapM fun item => do list (← declared item)
      pure lists.flatten) = .ok items) ↔
      IsFull s.files ∧
        ∀ files, s.files = some files → ∀ f, some f ∈ files → ∃ items, list f = .ok items := by
  constructor
  · rintro ⟨items, h⟩
    obtain ⟨files, hfiles, h⟩ := bind_eq_ok.1 h
    obtain ⟨lists, hlists, -⟩ := bind_eq_ok.1 h
    have hset : s.files = some files := wanted_eq_ok_iff.1 hfiles
    obtain ⟨hfull, heach⟩ := exists_mapM_declared_iff.1 ⟨lists, hlists⟩
    refine ⟨⟨files, hset, hfull⟩, fun files' hfiles' => ?_⟩
    obtain rfl := Option.some.inj (hset.symm.trans hfiles')
    exact heach
  · rintro ⟨⟨files, hfiles, hfull⟩, heach⟩
    obtain ⟨lists, hlists⟩ := exists_mapM_declared_iff.2 ⟨hfull, heach files hfiles⟩
    exact ⟨lists.flatten, bind_eq_ok.2 ⟨files, wanted_eq_ok_iff.2 hfiles,
      bind_eq_ok.2 ⟨lists, hlists, rfl⟩⟩⟩

/-- Where a set is listed, each of its files is. -/
theorem FileSet.exists_of_flatten {s : FileSet} {list : File → Except NullPart (List β)}
    {items : List β}
    (h : (do
      let lists ← (← s.fileList).mapM fun item => do list (← declared item)
      pure lists.flatten) = .ok items) {files : List (Option File)} (hfiles : s.files = some files)
    {f : File} (hf : some f ∈ files) : ∃ items, list f = .ok items :=
  (exists_flatten_iff.1 ⟨items, h⟩).2 files hfiles f hf

theorem FileSet.mem_messageTypes_iff {s : FileSet} {types : List MessageType}
    (h : s.messageTypes = .ok types) (t : MessageType) : t ∈ types ↔ s.DeclaresMessage t :=
  mem_flatten_iff (fun _ _ => File.mem_messageTypes_iff) h t

theorem FileSet.mem_enumTypes_iff {s : FileSet} {types : List EnumType}
    (h : s.enumTypes = .ok types) (t : EnumType) : t ∈ types ↔ s.DeclaresEnum t :=
  mem_flatten_iff (fun _ _ => File.mem_enumTypes_iff) h t

/-- The enum types of a set are listed exactly if the set is walkable. -/
theorem FileSet.exists_enumTypes_iff {s : FileSet} :
    (∃ types, s.enumTypes = .ok types) ↔ s.IsWalkable := by
  refine exists_flatten_iff.trans ⟨fun h => ⟨h.1, fun files hfiles f hf => ?_⟩,
    fun h => ⟨h.files, fun files hfiles f hf => ?_⟩⟩
  · exact File.exists_enumTypes_iff.1 (h.2 files hfiles f hf)
  · exact File.exists_enumTypes_iff.2 (h.each files hfiles f hf)

/-- The message types of a walkable set are listed too. -/
theorem FileSet.exists_messageTypes {s : FileSet} (h : s.IsWalkable) :
    ∃ types, s.messageTypes = .ok types := by
  refine exists_flatten_iff.2 ⟨h.files, fun files hfiles f hf => ?_⟩
  obtain ⟨ds, hds⟩ := f.exists_declarations (h.each files hfiles f hf)
  exact ⟨_, map_eq_ok.2 ⟨ds, hds, rfl⟩⟩

end Protogen.Schema
