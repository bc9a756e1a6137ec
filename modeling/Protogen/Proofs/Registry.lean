import Protogen.Proofs.Schema.Names
import Protogen.Registry

/-!
# What a registry knows

* `FileSet.Knows` are the full names of the standard types and of the types that a set declares,
  at any depth.
* `Registry.mem_added_iff`: what a registry holds comes from a standard type or from one of the set.
* `Registry.exists_ofFileSet_iff`: there is a registry of just the sets that can be enumerated.
* `Registry.ofFileSet_spec` makes the registry of a complete set, which finds just these names.
* `Registry.lookup_ofMessage` and `Registry.lookup_ofEnum`: where no two types of a set have the same
  name, each is found by its own, even if a standard type has that name.
-/

set_option autoImplicit false

namespace Protogen

open Schema

/-- The full names of the types that a set may refer to. -/
def Schema.FileSet.Knows (s : FileSet) (name : String) : Prop :=
  name ∈ wellKnownTypes ∨ (∃ t, s.DeclaresMessage t ∧ t.fullName = some name) ∨
    ∃ t, s.DeclaresEnum t ∧ t.fullName = some name

namespace Registry

theorem lookup_eq_ok_iff {r : Registry} {name : String} :
    (∃ entry, r.lookup (some name) = .ok entry) ↔ ∃ entry ∈ r.added, entry.fullName = some name := by
  have hfind : (∃ entry, r.lookup (some name) = .ok entry) ↔ (r.find? (some name)).isSome := by
    unfold lookup
    cases r.find? (some name) <;> simp
  rw [hfind, find?, List.find?_isSome]
  simp

/-- What is found was added, with the name that it is found by. -/
theorem mem_added_of_lookup {r : Registry} {fullName : Option String} {entry : Entry}
    (h : r.lookup fullName = .ok entry) : entry ∈ r.added ∧ entry.fullName = fullName := by
  unfold lookup at h
  split at h
  · rename_i found hfind
    cases h
    have hname := List.find?_some hfind
    exact ⟨List.mem_reverse.1 (List.mem_of_find?_eq_some hfind), beq_iff_eq.1 hname⟩
  · cases h

/-- The types from which a registry is made. -/
theorem ofFileSet_eq_ok {s : FileSet} {r : Registry} (h : ofFileSet s = .ok r) :
    ∃ messages enums, s.messageTypes = .ok messages ∧ s.enumTypes = .ok enums ∧
      r.added = wellKnownTypes.map wellKnown ++ messages.map ofMessage ++ enums.map ofEnum := by
  obtain ⟨messages, hmessages, h⟩ := bind_eq_ok.1 h
  obtain ⟨enums, henums, h⟩ := bind_eq_ok.1 h
  cases h
  exact ⟨messages, enums, hmessages, henums, rfl⟩

/-- What the types of a set, and the standard ones, add to its registry. -/
theorem mem_added_iff {s : FileSet} {r : Registry} (h : ofFileSet s = .ok r) (entry : Entry) :
    entry ∈ r.added ↔
      (∃ name ∈ wellKnownTypes, entry = wellKnown name) ∨
        (∃ t, s.DeclaresMessage t ∧ entry = ofMessage t) ∨
          ∃ t, s.DeclaresEnum t ∧ entry = ofEnum t := by
  obtain ⟨messages, enums, hmessages, henums, hadded⟩ := ofFileSet_eq_ok h
  simp only [hadded, List.mem_append, List.mem_map, FileSet.mem_messageTypes_iff hmessages,
    FileSet.mem_enumTypes_iff henums, or_assoc, eq_comm]

/-- There is a registry of just the walkable sets. -/
theorem exists_ofFileSet_iff {s : FileSet} : (∃ r, ofFileSet s = .ok r) ↔ s.IsWalkable := by
  constructor
  · rintro ⟨r, h⟩
    obtain ⟨messages, enums, -, henums, -⟩ := ofFileSet_eq_ok h
    exact FileSet.exists_enumTypes_iff.1 ⟨enums, henums⟩
  · intro h
    obtain ⟨messages, hmessages⟩ := FileSet.exists_messageTypes h
    obtain ⟨enums, henums⟩ := FileSet.exists_enumTypes_iff.2 h
    exact ⟨_, bind_eq_ok.2 ⟨messages, hmessages, bind_eq_ok.2 ⟨enums, henums, rfl⟩⟩⟩

/-- The registry of a complete set finds the names that the set may refer to. -/
theorem ofFileSet_spec {s : FileSet} (h : s.IsComplete) :
    ∃ r, ofFileSet s = .ok r ∧
      ∀ name, (∃ entry, r.lookup (some name) = .ok entry) ↔ s.Knows name := by
  obtain ⟨r, hregistry⟩ := exists_ofFileSet_iff.2 h.isWalkable
  refine ⟨r, hregistry, fun name => ?_⟩
  simp only [lookup_eq_ok_iff, mem_added_iff hregistry]
  constructor
  · rintro ⟨entry, ⟨known, hknown, rfl⟩ | ⟨t, ht, rfl⟩ | ⟨t, ht, rfl⟩, hname⟩
    · cases hname
      exact .inl hknown
    · exact .inr (.inl ⟨t, ht, hname⟩)
    · exact .inr (.inr ⟨t, ht, hname⟩)
  · rintro (hknown | ⟨t, ht, hname⟩ | ⟨t, ht, hname⟩)
    · exact ⟨wellKnown name, .inl ⟨name, hknown, rfl⟩, rfl⟩
    · exact ⟨ofMessage t, .inr (.inl ⟨t, ht, rfl⟩), hname⟩
    · exact ⟨ofEnum t, .inr (.inr ⟨t, ht, rfl⟩), hname⟩

/-- An entry that was added last is found, if no other with its name was added with it. -/
theorem lookup_of_mem_added {r : Registry} {first added : List Entry}
    (hadded : r.added = first ++ added) (hnodup : (added.map Entry.fullName).Nodup) {entry : Entry}
    (hentry : entry ∈ added) : r.lookup entry.fullName = .ok entry := by
  have hlast : added.reverse.find? (fun e => e.fullName == entry.fullName) = some entry := by
    have hreverse : (added.reverse.map Entry.fullName).Nodup := by
      rw [List.map_reverse, List.nodup_reverse]
      exact hnodup
    rw [← List.head?_filter, filter_key_eq hreverse (List.mem_reverse.2 hentry)]
    rfl
  have hfind : r.find? entry.fullName = some entry := by
    rw [find?, hadded, List.reverse_append, List.find?_append, hlast, Option.some_or]
  rw [lookup, hfind]

section

variable {s : FileSet} {r : Registry} (h : ofFileSet s = .ok r) (hnodup : s.typeNames.Nodup)
include h hnodup

/-- The entries of the types of a set, with their names. -/
theorem exists_added :
    ∃ messages enums, s.messageTypes = .ok messages ∧ s.enumTypes = .ok enums ∧
      r.added = wellKnownTypes.map wellKnown ++ (messages.map ofMessage ++ enums.map ofEnum) ∧
      ((messages.map ofMessage ++ enums.map ofEnum).map Entry.fullName).Nodup := by
  obtain ⟨messages, enums, hmessages, henums, hadded⟩ := ofFileSet_eq_ok h
  refine ⟨messages, enums, hmessages, henums, by rw [hadded, List.append_assoc], ?_⟩
  have hshown := (FileSet.perm_typeNames hmessages henums).nodup_iff.2 hnodup
  refine List.Nodup.of_map shownName ?_
  rw [List.map_map, List.map_append, List.map_map, List.map_map]
  exact hshown

/-- A message is found by its name. -/
theorem lookup_ofMessage {t : MessageType} (ht : s.DeclaresMessage t) :
    r.lookup t.fullName = .ok (ofMessage t) := by
  obtain ⟨messages, enums, hmessages, henums, hadded, hdistinct⟩ := exists_added h hnodup
  have hentry : ofMessage t ∈ messages.map ofMessage ++ enums.map ofEnum :=
    List.mem_append_left _ (List.mem_map_of_mem ((FileSet.mem_messageTypes_iff hmessages t).2 ht))
  exact lookup_of_mem_added hadded hdistinct hentry

/-- An enum is found by its name. -/
theorem lookup_ofEnum {t : EnumType} (ht : s.DeclaresEnum t) :
    r.lookup t.fullName = .ok (ofEnum t) := by
  obtain ⟨messages, enums, hmessages, henums, hadded, hdistinct⟩ := exists_added h hnodup
  have hentry : ofEnum t ∈ messages.map ofMessage ++ enums.map ofEnum :=
    List.mem_append_right _ (List.mem_map_of_mem ((FileSet.mem_enumTypes_iff henums t).2 ht))
  exact lookup_of_mem_added hadded hdistinct hentry

end

end Registry

end Protogen
