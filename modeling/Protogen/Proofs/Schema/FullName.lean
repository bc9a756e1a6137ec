import Protogen.Proofs.Registry
import Protogen.Proofs.Schema.Preorder

/-!
# Full names identify types

Where the names in each scope are distinct and have no dots, the full names of all types of a file
are distinct, at whatever depth the types are declared.

* `File.HasDistinctNames` is about the names in the scopes of a file.
* `join_injective` takes a full name apart.
* `MessageAt.place_eq` is the induction over the messages around: names on the way to a message lead
  to one place only.
* `File.fullNames_identify` says that full names are distinct and that the registry of the file
  finds each type by its own.
-/

set_option autoImplicit false

namespace Protogen.Schema

/-! ## Distinct names -/

/-- A name that can be a part of a full name. -/
def IsPart (name : Option String) : Prop := ∃ own, name = some own ∧ own ≠ "" ∧ '.' ∉ own.toList

/-- The names that a scope declares, those of its messages first. -/
def scopeNames (messages : Option (List (Option Message))) (enums : Option (List (Option Enum))) :
    List (Option String) :=
  (messages.getD []).map (·.bind Message.name) ++ (enums.getD []).map (·.bind Enum.name)

/-- A file that declares no name twice in one scope; the names have no dots. -/
structure File.HasDistinctNames (f : File) : Prop where
  messages : ∀ place names m, f.MessageAt place names m → IsPart m.name
  enums : ∀ scope position names e, f.EnumAt scope position names e → IsPart e.name
  outermost : (scopeNames f.messages f.enums).Nodup
  inside : ∀ place names m, f.MessageAt place names m → (scopeNames m.messages m.enums).Nodup

theorem IsPart.isNamed {name : Option String} (h : IsPart name) : isNamed name = true := by
  obtain ⟨own, hown, hne, -⟩ := h
  exact isNamed_iff.2 ⟨own, hown, hne⟩

theorem IsPart.eq_some {name : Option String} (h : IsPart name) : name = some (shownName name) := by
  obtain ⟨own, rfl, -⟩ := h
  rfl

theorem IsPart.not_mem {name : Option String} (h : IsPart name) :
    '.' ∉ (shownName name).toList := by
  obtain ⟨own, rfl, -, hdot⟩ := h
  exact hdot

theorem IsPart.eq_of_shownName {name other : Option String} (h : IsPart name) (h' : IsPart other)
    (heq : shownName name = shownName other) : name = other := by
  rw [h.eq_some, h'.eq_some, heq]

/-- Where no two items have one name, a name is at one position. -/
theorem position_eq {α : Type} {name : α → Option String} {items : List (Option α)}
    (hnodup : (items.map (·.bind name)).Nodup) {i j : Nat} {a b : α}
    (hi : items[i]? = some (some a)) (hj : items[j]? = some (some b)) (hname : name a = name b) :
    i = j := by
  have hlt : i < (items.map (·.bind name)).length := by
    rw [List.length_map]
    exact (List.getElem?_eq_some_iff.1 hi).1
  refine (List.getElem?_inj hlt hnodup).1 ?_
  rw [List.getElem?_map, List.getElem?_map, hi, hj]
  simp [hname]

/-! ## Taking names apart -/

theorem intercalate_injective {names names' : List String} (hne : names ≠ []) (hne' : names' ≠ [])
    (h : ∀ name ∈ names, '.' ∉ name.toList) (h' : ∀ name ∈ names', '.' ∉ name.toList)
    (heq : String.intercalate "." names = String.intercalate "." names') : names = names' := by
  have hsplit : ∀ {list : List String}, list ≠ [] → (∀ name ∈ list, '.' ∉ name.toList) →
      (String.intercalate "." list).toList.splitOn '.' = list.map String.toList := by
    intro list hne hdots
    rw [String.toList_intercalate]
    exact List.splitOn_intercalate '.' (by simpa using hdots) (by simpa using hne)
  refine List.map_injective_iff.2 (fun _ _ => String.ext) ?_
  rw [← hsplit hne h, ← hsplit hne' h', heq]

/-- A full name has one way to be made of names. -/
theorem File.join_injective {f : File} {names names' : List String} (hne : names ≠ [])
    (hne' : names' ≠ []) (h : ∀ name ∈ names, '.' ∉ name.toList)
    (h' : ∀ name ∈ names', '.' ∉ name.toList) (heq : f.join names = f.join names') :
    names = names' := by
  unfold File.join at heq
  split at heq
  · rw [String.intercalate_append_of_ne_nil (by simp) hne,
      String.intercalate_append_of_ne_nil (by simp) hne'] at heq
    exact intercalate_injective hne hne' h h' (by simpa using heq)
  · exact intercalate_injective hne hne' h h' heq

section

variable {messages : List (Option Message)} {place : List Nat} {names : List String} {m : Message}

theorem MessageAt.names_ne_nil (h : MessageAt messages place names m) : names ≠ [] := by
  cases h <;> simp

theorem MessageAt.not_mem_of_mem
    (hparts : ∀ place names m, MessageAt messages place names m → IsPart m.name)
    (h : MessageAt messages place names m) {name : String} (hname : name ∈ names) :
    '.' ∉ name.toList := by
  induction h with
  | here h =>
    cases List.mem_singleton.1 hname
    exact (hparts _ _ _ (.here h)).not_mem
  | inside h hm ih =>
    rcases List.mem_cons.1 hname with rfl | hname
    · exact (hparts _ _ _ (.here h)).not_mem
    · exact ih (fun _ _ _ hm => hparts _ _ _ (.inside h hm)) hname

/-! ## Names lead to one place -/

/-- No list of messages, at any depth, has two of one name. -/
structure DistinctBelow (messages : List (Option Message)) : Prop where
  parts : ∀ place names m, MessageAt messages place names m → IsPart m.name
  own : (messages.map (·.bind Message.name)).Nodup
  inside : ∀ place names m, MessageAt messages place names m →
    ((m.messages.getD []).map (·.bind Message.name)).Nodup

theorem DistinctBelow.nested (h : DistinctBelow messages) {position : Nat}
    (hm : messages[position]? = some (some m)) :
    DistinctBelow (m.messages.getD []) where
  parts := fun _ _ _ hinner => h.parts _ _ _ (.inside hm hinner)
  own := h.inside _ _ _ (.here hm)
  inside := fun _ _ _ hinner => h.inside _ _ _ (.inside hm hinner)

/-- The names on the way to a message determine its place: the first of them picks one of the
outermost messages, and the others lead on from there. -/
theorem MessageAt.place_eq {place' : List Nat} {names' : List String} {m' : Message}
    (hdistinct : DistinctBelow messages) (h : MessageAt messages place names m)
    (h' : MessageAt messages place' names' m')
    (hnames : names = names') : place = place' := by
  induction h generalizing place' names' with
  | here h =>
    cases h' with
    | here h' =>
      have hname := (hdistinct.parts _ _ _ (.here h)).eq_of_shownName
        (hdistinct.parts _ _ _ (.here h')) (List.cons.inj hnames).1
      rw [position_eq hdistinct.own h h' hname]
    | inside h' hm' => exact absurd (List.cons.inj hnames).2.symm hm'.names_ne_nil
  | inside h hm ih =>
    cases h' with
    | here h' => exact absurd (List.cons.inj hnames).2 hm.names_ne_nil
    | inside h' hm' =>
      have hname := (hdistinct.parts _ _ _ (.here h)).eq_of_shownName
        (hdistinct.parts _ _ _ (.here h')) (List.cons.inj hnames).1
      obtain rfl := position_eq hdistinct.own h h' hname
      cases h.symm.trans h'
      rw [ih (hdistinct.nested h) hm' (List.cons.inj hnames).2]

end

section

variable {f : File} (hdistinct : f.HasDistinctNames)
include hdistinct

theorem File.HasDistinctNames.distinctBelow : DistinctBelow (f.messages.getD []) where
  parts := hdistinct.messages
  own := (List.nodup_append.1 hdistinct.outermost).1
  inside := fun _ _ _ hm => (List.nodup_append.1 (hdistinct.inside _ _ _ hm)).1

/-- The names on the way to an enum and its own name determine its place. -/
theorem File.EnumAt.place_eq {scope scope' : List Nat} {position position' : Nat}
    {names : List String} {e e' : Enum} (h : f.EnumAt scope position names e)
    (h' : f.EnumAt scope' position' names e') (hname : e.name = e'.name) :
    (scope, position) = (scope', position') := by
  cases h with
  | outermost h =>
    cases h' with
    | outermost h' => rw [position_eq (List.nodup_append.1 hdistinct.outermost).2.1 h h' hname]
    | inside hm' _ => exact absurd rfl hm'.names_ne_nil
  | inside hm h =>
    cases h' with
    | outermost _ => exact absurd rfl hm.names_ne_nil
    | inside hm' h' =>
      obtain rfl := hm.place_eq hdistinct.distinctBelow hm' rfl
      obtain ⟨-, rfl⟩ := hm.unique hm'
      rw [position_eq (List.nodup_append.1 (hdistinct.inside _ _ _ hm)).2.1 h h' hname]

/-- No message is reached by the names of an enum. -/
theorem File.EnumAt.not_messageAt {scope place : List Nat} {position : Nat}
    {names names' : List String} {e : Enum} {m : Message} (h : f.EnumAt scope position names e)
    (hm : f.MessageAt place names' m) : names' ≠ names ++ [shownName e.name] := by
  intro hnames
  have hclash : ∀ {messages enums}, (scopeNames messages enums).Nodup →
      some m ∈ messages.getD [] → (enums.getD [])[position]? = some (some e) →
        m.name ≠ e.name := by
    intro messages enums hnodup hmem he
    refine (List.nodup_append.1 hnodup).2.2 _ ?_ _ ?_
    · exact List.mem_map.2 ⟨some m, hmem, rfl⟩
    · exact List.mem_map.2 ⟨some e, List.mem_of_getElem? he, rfl⟩
  obtain ⟨around, rfl, hdeclared⟩ := hm.exists_around
  obtain ⟨rfl, hlast⟩ := List.append_inj' hnames rfl
  have hname : m.name = e.name := (hdistinct.messages _ _ _ hm).eq_of_shownName
    (hdistinct.enums _ _ _ _ h) (List.cons.inj hlast).1
  rcases hdeclared with ⟨rfl, hmem⟩ | ⟨outer, o, houter, hmem⟩
  · cases h with
    | outermost h => exact hclash hdistinct.outermost hmem h hname
    | inside ho _ => exact absurd rfl ho.names_ne_nil
  · cases h with
    | outermost _ => exact absurd rfl houter.names_ne_nil
    | inside ho h =>
      obtain rfl := ho.place_eq hdistinct.distinctBelow houter rfl
      obtain ⟨-, rfl⟩ := ho.unique houter
      exact hclash (hdistinct.inside _ _ _ ho) hmem h hname

theorem File.HasDistinctNames.not_mem_of_messageAt {place : List Nat} {names : List String}
    {m : Message} (hm : f.MessageAt place names m) : ∀ name ∈ names, '.' ∉ name.toList :=
  fun _ => hm.not_mem_of_mem hdistinct.messages

theorem File.HasDistinctNames.not_mem_of_enumAt {scope : List Nat} {position : Nat}
    {names : List String} {e : Enum} (h : f.EnumAt scope position names e) :
    ∀ name ∈ names ++ [shownName e.name], '.' ∉ name.toList := by
  intro name hname
  rcases List.mem_append.1 hname with hname | hname
  · cases h with
    | outermost _ => cases hname
    | inside hm _ => exact hdistinct.not_mem_of_messageAt hm name hname
  · cases List.mem_singleton.1 hname
    exact (hdistinct.enums _ _ _ _ h).not_mem

end

/-! ## Full names -/

/-- Items have keys of their own, if their keys determine their places. -/
theorem nodup_map_of_places {π α κ : Type} {IsAt : π → α → Prop} {key : α → κ} {places : List π}
    {items : List α} (h : List.Forall₂ IsAt places items) (hplaces : places.Nodup)
    (hkey : ∀ p a q b, IsAt p a → IsAt q b → key a = key b → p = q) : (items.map key).Nodup := by
  induction h with
  | nil => exact .nil
  | @cons p a places items hat hrest ih =>
    rw [List.nodup_cons] at hplaces
    rw [List.map_cons, List.nodup_cons]
    refine ⟨fun hmem => ?_, ih hplaces.2⟩
    obtain ⟨b, hb, hsame⟩ := List.mem_map.1 hmem
    obtain ⟨q, hq, hqb⟩ := exists_of_mem_left hrest.flip hb
    exact hplaces.1 (hkey p a q b hat hqb hsame.symm ▸ hq)

/-- The names of the message types and of the enums of a file are distinct. -/
theorem File.nodup_shown {f : File} (hdistinct : f.HasDistinctNames) {places : List (List Nat)}
    {messages : List MessageType} {enumPlaces : List (List Nat × Nat)} {enums : List EnumType}
    (hmessages : ListsMessages f [] (f.messages.getD []) places messages)
    (henums : f.ListsEnums enumPlaces enums) :
    (messages.map Declared.shown ++ enums.map Declared.shown).Nodup := by
  have hmessage : ∀ {t : MessageType} {names : List String},
      t.fullName = some (f.join ([] ++ names)) → t.shown = f.join names := by
    intro t names hname
    rw [Declared.shown, hname]
    rfl
  have henum : ∀ {t : EnumType} {scope : List Nat} {i : Nat} {names : List String},
      f.EnumAt scope i names t.declaration →
      (∀ own, t.declaration.name = some own → t.fullName = some (f.join (names ++ [own]))) →
      t.shown = f.join (names ++ [shownName t.declaration.name]) := by
    intro t scope i names ht hname
    rw [Declared.shown, hname _ (hdistinct.enums _ _ _ _ ht).eq_some]
    rfl
  refine List.nodup_append.2 ⟨?_, ?_, ?_⟩
  · refine nodup_map_of_places hmessages.matched (hmessages.sorted.imp fun h => ne_of_lt h) ?_
    rintro p t q u ⟨names, ht, -, htname⟩ ⟨names', hu, -, huname⟩ hsame
    rw [hmessage htname, hmessage huname] at hsame
    refine ht.place_eq hdistinct.distinctBelow hu (File.join_injective ht.names_ne_nil
      hu.names_ne_nil (hdistinct.not_mem_of_messageAt ht) (hdistinct.not_mem_of_messageAt hu) hsame)
  · refine nodup_map_of_places henums.matched (henums.sorted.imp fun h => h.ne) ?_
    rintro p t q u ⟨names, ht, -, htname⟩ ⟨names', hu, -, huname⟩ hsame
    rw [henum ht htname, henum hu huname] at hsame
    have hnames := File.join_injective (by simp) (by simp) (hdistinct.not_mem_of_enumAt ht)
      (hdistinct.not_mem_of_enumAt hu) hsame
    obtain ⟨rfl, hlast⟩ := List.append_inj' hnames rfl
    exact File.EnumAt.place_eq hdistinct ht hu ((hdistinct.enums _ _ _ _ ht).eq_of_shownName
      (hdistinct.enums _ _ _ _ hu) (List.cons.inj hlast).1)
  · intro x hx y hy hsame
    obtain ⟨t, ht, rfl⟩ := List.mem_map.1 hx
    obtain ⟨u, hu, rfl⟩ := List.mem_map.1 hy
    obtain ⟨p, -, names, ht, -, htname⟩ := exists_of_mem_left hmessages.matched.flip ht
    obtain ⟨q, -, names', hu, -, huname⟩ := exists_of_mem_left henums.matched.flip hu
    rw [hmessage htname, henum hu huname] at hsame
    exact File.EnumAt.not_messageAt hdistinct hu ht (File.join_injective ht.names_ne_nil (by simp)
      (hdistinct.not_mem_of_messageAt ht) (hdistinct.not_mem_of_enumAt hu) hsame)

/-- The full names of the types of a file are distinct, if the names in each of its scopes are, and
the registry of the file finds every type by its full name. -/
theorem File.fullNames_identify {f : File} (hwalkable : f.IsWalkable)
    (hdistinct : f.HasDistinctNames) : ∃ messages enums r, f.messageTypes = .ok messages ∧
      f.enumTypes = .ok enums ∧
      (messages.map Declared.fullName ++ enums.map Declared.fullName).Nodup ∧
      Registry.ofFileSet ⟨some [some f]⟩ = .ok r ∧
      (∀ t ∈ messages, r.lookup t.fullName = .ok (Registry.ofMessage t)) ∧
      ∀ t ∈ enums, r.lookup t.fullName = .ok (Registry.ofEnum t) := by
  obtain ⟨⟨places, messages, hmessages, hlists⟩, enumPlaces, enums, henums, hlistsEnums⟩ :=
    File.exists_listed hwalkable fun _ _ _ hm => (hdistinct.messages _ _ _ hm).isNamed
  have hshown := File.nodup_shown hdistinct hlists hlistsEnums
  have hset : FileSet.IsWalkable ⟨some [some f]⟩ := by
    refine ⟨⟨_, rfl, by simp⟩, ?_⟩
    rintro files ⟨⟩ g hg
    cases List.mem_singleton.1 hg
    exact hwalkable
  obtain ⟨r, hr⟩ := Registry.exists_ofFileSet_iff.2 hset
  have hnames : FileSet.typeNames ⟨some [some f]⟩ = f.typeNames := by simp [FileSet.typeNames]
  have hnodup : (FileSet.typeNames ⟨some [some f]⟩).Nodup := by
    rw [hnames]
    exact (File.perm_typeNames hmessages henums).nodup_iff.1 hshown
  refine ⟨messages, enums, r, hmessages, henums, List.Nodup.of_map shownName ?_, hr, ?_, ?_⟩
  · rw [List.map_append, List.map_map, List.map_map]
    exact hshown
  · intro t ht
    exact Registry.lookup_ofMessage hr hnodup
      ⟨_, f, rfl, List.mem_singleton_self _, (File.mem_messageTypes_iff hmessages t).1 ht⟩
  · intro t ht
    exact Registry.lookup_ofEnum hr hnodup
      ⟨_, f, rfl, List.mem_singleton_self _, (File.mem_enumTypes_iff henums t).1 ht⟩

/-! ### A file with one name in several scopes -/

instance (name : Option String) : Decidable (IsPart name) :=
  decidable_of_iff (name.any fun own => own ≠ "" ∧ '.' ∉ own.toList) (by
    cases name <;> simp [IsPart])

theorem File.EnumAt.exists_declaresEnum {f : File} {scope : List Nat} {position : Nat}
    {names : List String} {e : Enum} (h : f.EnumAt scope position names e) :
    ∃ t, f.DeclaresEnum t ∧ t.declaration = e := by
  have hlist : ∀ {enums : Option (List (Option Enum))}, (enums.getD [])[position]? = some (some e) →
      ∃ list, enums = some list ∧ some e ∈ list := by
    intro enums h
    cases enums with
    | none => cases h
    | some list => exact ⟨list, rfl, List.mem_of_getElem? h⟩
  cases h with
  | outermost h =>
    obtain ⟨list, henums, he⟩ := hlist h
    exact ⟨_, .inl ⟨list, henums, e, he, rfl⟩, rfl⟩
  | inside hm h =>
    obtain ⟨list, henums, he⟩ := hlist h
    obtain ⟨t, ⟨messages, hmessages, ht⟩, rfl⟩ := File.exists_declaresMessage hm
    exact ⟨_, .inr ⟨messages, hmessages, t, list, ht, henums, e, he, rfl⟩, rfl⟩

/-- The names of a file may be checked on its types. -/
theorem File.hasDistinctNames_of_types {f : File} {messages : List MessageType}
    {enums : List EnumType} (hmessages : f.messageTypes = .ok messages)
    (henums : f.enumTypes = .ok enums) (houtermost : (scopeNames f.messages f.enums).Nodup)
    (heach : ∀ t ∈ messages, IsPart t.declaration.name ∧
      (scopeNames t.declaration.messages t.declaration.enums).Nodup)
    (hparts : ∀ t ∈ enums, IsPart t.declaration.name) : f.HasDistinctNames where
  messages := by
    intro place names m hm
    obtain ⟨t, ht, rfl⟩ := File.exists_declaresMessage hm
    exact (heach t ((File.mem_messageTypes_iff hmessages t).2 ht)).1
  enums := by
    intro scope position names e he
    obtain ⟨t, ht, rfl⟩ := he.exists_declaresEnum
    exact hparts t ((File.mem_enumTypes_iff henums t).2 ht)
  outermost := houtermost
  inside := by
    intro place names m hm
    obtain ⟨t, ht, rfl⟩ := File.exists_declaresMessage hm
    exact (heach t ((File.mem_messageTypes_iff hmessages t).2 ht)).2

/-- Two messages have one name and three enums another, each in a scope of its own. -/
def depotFile : File where
  name := some "depot.proto"
  package := none
  messages := some [
    some (.mk (some "Order") (some [])
      (some [some (.mk (some "State") (some []) (some []) (some []))])
      (some [some ⟨some "Kind", some []⟩])),
    some (.mk (some "State") (some []) (some []) (some [some ⟨some "Kind", some []⟩]))]
  enums := some [some ⟨some "Kind", some []⟩]

theorem fullNames_identify_depot : depotFile.IsWalkable ∧ depotFile.HasDistinctNames ∧
    ∃ messages enums r, depotFile.messageTypes = .ok messages ∧ depotFile.enumTypes = .ok enums ∧
      messages.map Declared.fullName = [some "Order", some "Order.State", some "State"] ∧
      enums.map Declared.fullName = [some "Kind", some "Order.Kind", some "State.Kind"] ∧
      Registry.ofFileSet ⟨some [some depotFile]⟩ = .ok r ∧
      (∀ t ∈ messages, r.lookup t.fullName = .ok (Registry.ofMessage t)) ∧
      ∀ t ∈ enums, r.lookup t.fullName = .ok (Registry.ofEnum t) := by
  have hwalkable : depotFile.IsWalkable := File.exists_enumTypes_iff.1 ⟨_, rfl⟩
  have hdistinct : depotFile.HasDistinctNames :=
    File.hasDistinctNames_of_types rfl rfl (by decide) (by decide) (by decide)
  obtain ⟨messages, enums, r, hmessages, henums, -, hr, hlookups⟩ :=
    File.fullNames_identify hwalkable hdistinct
  refine ⟨hwalkable, hdistinct, messages, enums, r, hmessages, henums, ?_, ?_, hr, hlookups⟩
  · cases hmessages
    decide
  · cases henums
    decide

end Protogen.Schema
