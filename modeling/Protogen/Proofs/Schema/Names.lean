import Mathlib.Data.List.Nodup
import Protogen.Proofs.Schema.Types

/-!
# The names that a schema declares

`FileSet.typeNames` are the full names of the messages and enums of a set, at any depth, each as
often as it is declared; a missing name is written as in the generated code. A schema is
unambiguous if no name is in the list twice.

* `names_walkItems`: the declarations of a list of messages are enumerated with their names, each
  once.
* `File.perm_typeNames` and `FileSet.perm_typeNames`: messages and enums together have these names,
  each as often as it is declared.
* `filter_key_eq` picks an item by a key that no other has.
-/

set_option autoImplicit false

namespace Protogen.Schema

/-! ## Items with a key of their own -/

/-- Where no two items have the same key, an item is found by its key. -/
theorem filter_key_eq {α κ : Type} [BEq κ] [LawfulBEq κ] {key : α → κ} {items : List α}
    (hnodup : (items.map key).Nodup) {a : α} (ha : a ∈ items) :
    (items.filter fun b => key b == key a) = [a] := by
  induction items with
  | nil => cases ha
  | cons b items ih =>
    rw [List.map_cons, List.nodup_cons] at hnodup
    rcases List.mem_cons.1 ha with rfl | ha
    · have hnone : (items.filter fun b => key b == key a) = [] := by
        rw [List.filter_eq_nil_iff]
        intro b hb heq
        exact hnodup.1 (List.mem_map.2 ⟨b, hb, eq_of_beq heq⟩)
      rw [List.filter_cons, if_pos (by simp), hnone]
    · have hne : ¬(key b == key a) = true := by
        intro heq
        exact hnodup.1 (List.mem_map.2 ⟨a, ha, (eq_of_beq heq).symm⟩)
      rw [List.filter_cons, if_neg hne, ih hnodup.2 ha]

/-! ## Declared names -/

/-- The name of a type. -/
def Declared.shown {α : Type} (t : Declared α) : String := shownName t.fullName

/-- The full names of the enums of a scope. -/
def enumNames (package scope : Option String) (enums : Option (List (Option Enum))) : List String :=
  (enums.getD []).filterMap fun item =>
    item.map fun e => shownName (qualify package scope e.name)

mutual

/-- The full names of a message, its enums and its nested messages. -/
def messageNames (package scope : Option String) : Message → List String
  | .mk name _ messages enums =>
    let fullName := qualify package scope name
    shownName fullName :: (enumNames package fullName enums ++ nestedNames package fullName messages)

/-- The full names that a list of messages declares. -/
def nestedNames (package scope : Option String) : Option (List (Option Message)) → List String
  | none => []
  | some messages => listNames package scope messages

/-- The full names that messages declare. -/
def listNames (package scope : Option String) : List (Option Message) → List String
  | [] => []
  | item :: messages => itemNames package scope item ++ listNames package scope messages

/-- The full names that a message declares, if there is one. -/
def itemNames (package scope : Option String) : Option Message → List String
  | none => []
  | some message => messageNames package scope message

end

/-- The full names of the types of a file. -/
def File.typeNames (f : File) : List String :=
  enumNames f.package none f.enums ++ nestedNames f.package none f.messages

/-- The full names of the types of a set. -/
def FileSet.typeNames (s : FileSet) : List String :=
  (s.files.getD []).flatMap fun item => (item.map File.typeNames).getD []

/-! ## Enumerations -/

theorem names_enumsIn {file : File} {scope : Option String}
    {enums : Option (List (Option Enum))} {types : List EnumType}
    (h : enumsIn file scope enums = .ok types) :
    types.map Declared.shown = enumNames file.package scope enums := by
  cases enums with
  | none => cases h
  | some list =>
    have hall := mapM_eq_ok_iff.1 h
    simp only [enumNames, Option.getD_some]
    clear h
    induction hall with
    | nil => rfl
    | @cons item t list types hitem hrest ih =>
      obtain ⟨e, he, hitem⟩ := bind_eq_ok.1 hitem
      obtain rfl := declared_eq_ok_iff.1 he
      cases hitem
      rw [List.map_cons, ih]
      rfl

/-- The name of a declaration. -/
def declaredName : MessageType ⊕ EnumType → String := Sum.elim Declared.shown Declared.shown

/-- The declarations of messages, by their names. -/
theorem names_walkItems {file : File} {scope : Option String} {messages : List (Option Message)}
    {ds : List (MessageType ⊕ EnumType)} (h : walkItems file scope messages = .ok ds) :
    ds.map declaredName = listNames file.package scope messages := by
  induction messages using messages_induction generalizing scope ds with
  | nil =>
    cases h
    rfl
  | null messages => cases h
  | cons m messages ihInside ihBehind =>
    obtain ⟨nested, own, inside, rest, hnested, hown, hinside, hrest, rfl⟩ :=
      walkItems_cons_eq_ok_iff.1 h
    obtain ⟨name, fields, messages', enums⟩ := m
    obtain rfl : messages' = some nested := hnested
    have hinsideNames := ihInside nested rfl hinside
    have hrestNames := ihBehind hrest
    have hownNames := names_enumsIn hown
    simp only [Message.name, Message.enums] at hinsideNames hownNames
    simp only [listNames, itemNames, messageNames, nestedNames, List.map_append, List.map_cons,
      List.map_map, hinsideNames, hrestNames, ← hownNames]
    rfl

/-- Messages and enums that are listed apart have the names of the enumeration. -/
theorem perm_names (ds : List (MessageType ⊕ EnumType)) :
    ((ds.filterMap Sum.getLeft?).map Declared.shown ++
      (ds.filterMap Sum.getRight?).map Declared.shown).Perm (ds.map declaredName) := by
  induction ds with
  | nil => exact .nil
  | cons d ds ih =>
    cases d with
    | inl t => exact ih.cons _
    | inr t => exact List.perm_middle.trans (ih.cons _)

/-- The types of a file have its names. -/
theorem File.perm_typeNames {f : File} {messages : List MessageType} {enums : List EnumType}
    (hmessages : f.messageTypes = .ok messages) (henums : f.enumTypes = .ok enums) :
    (messages.map Declared.shown ++ enums.map Declared.shown).Perm f.typeNames := by
  obtain ⟨ds, hds, rfl⟩ := map_eq_ok.1 hmessages
  obtain ⟨own, hown, henums⟩ := bind_eq_ok.1 henums
  obtain ⟨ds', hds', henums⟩ := bind_eq_ok.1 henums
  obtain rfl := Except.ok.inj (hds.symm.trans hds')
  cases henums
  have hwalk : ds.map declaredName = nestedNames f.package none f.messages := by
    unfold File.declarations at hds
    cases hlist : f.messages with
    | none =>
      rw [hlist] at hds
      cases hds
    | some list =>
      rw [hlist] at hds
      exact names_walkItems hds
  rw [typeNames, ← names_enumsIn hown, ← hwalk, List.map_append]
  refine (List.perm_append_comm_assoc _ _ _).trans ?_
  exact (perm_names ds).append_left _

/-- The types of a list of files have their names. -/
theorem perm_flatten {files : List (Option File)} {messages : List (List MessageType)}
    {enums : List (List EnumType)}
    (hmessages : List.Forall₂ (fun item types => (do (← declared item).messageTypes) = .ok types)
      files messages)
    (henums : List.Forall₂ (fun item types => (do (← declared item).enumTypes) = .ok types)
      files enums) :
    (messages.flatten.map Declared.shown ++ enums.flatten.map Declared.shown).Perm
      (files.flatMap fun item => (item.map File.typeNames).getD []) := by
  induction hmessages generalizing enums with
  | nil =>
    cases henums
    exact .nil
  | @cons item types files messages hfirst hrest ih =>
    cases henums with
    | @cons _ enumTypes _ enums henumFirst henumRest =>
      obtain ⟨f, hf, hfirst⟩ := bind_eq_ok.1 hfirst
      obtain ⟨f', hf', henumFirst⟩ := bind_eq_ok.1 henumFirst
      obtain rfl := Except.ok.inj (hf.symm.trans hf')
      obtain rfl := declared_eq_ok_iff.1 hf
      have hthis := File.perm_typeNames hfirst henumFirst
      have hbehind := ih henumRest
      simp only [List.flatten_cons, List.map_append, List.flatMap_cons, Option.map_some,
        Option.getD_some, List.append_assoc]
      refine .trans ((List.perm_append_comm_assoc _ _ _).append_left _) ?_
      rw [← List.append_assoc]
      exact hthis.append hbehind

/-- The types of a set have its names. -/
theorem FileSet.perm_typeNames {s : FileSet} {messages : List MessageType} {enums : List EnumType}
    (hmessages : s.messageTypes = .ok messages) (henums : s.enumTypes = .ok enums) :
    (messages.map Declared.shown ++ enums.map Declared.shown).Perm s.typeNames := by
  obtain ⟨files, hfiles, hmessages⟩ := bind_eq_ok.1 hmessages
  obtain ⟨lists, hlists, hmessages⟩ := bind_eq_ok.1 hmessages
  cases hmessages
  obtain ⟨files', hfiles', henums⟩ := bind_eq_ok.1 henums
  obtain rfl := Except.ok.inj (hfiles.symm.trans hfiles')
  obtain ⟨enumLists, henumLists, henums⟩ := bind_eq_ok.1 henums
  cases henums
  rw [typeNames, wanted_eq_ok_iff.1 hfiles]
  exact perm_flatten (mapM_eq_ok_iff.1 hlists) (mapM_eq_ok_iff.1 henumLists)

/-- A file of a set without ambiguous names has none. -/
theorem FileSet.nodup_typeNames_of_mem {s : FileSet} (hnodup : s.typeNames.Nodup)
    {files : List (Option File)} (hfiles : s.files = some files) {f : File} (hf : some f ∈ files) :
    f.typeNames.Nodup := by
  rw [typeNames, hfiles] at hnodup
  exact (List.nodup_flatMap.1 hnodup).1 (some f) hf

end Protogen.Schema
