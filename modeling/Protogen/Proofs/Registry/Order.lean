import Protogen.Generation
import Protogen.Proofs.Registry
import Protogen.Proofs.Schema.Order

/-!
# Registries of files in another order

* `lookup_perm`: where no two types of a set have the same name, its registry finds the same entries
  in whatever order its files are.
* `SameLookup` relates registries that find the same entries. What is rendered for a file depends on
  what is found only (`SameLookup.renderParsers`).
-/

set_option autoImplicit false

namespace Protogen

open Code Schema

/-- Two registries that find the same entries. -/
def Registry.SameLookup (r r' : Registry) : Prop := ∀ name, r'.lookup name = r.lookup name

namespace Registry

/-- Where no two items have the same key, an item is found by its key in any order. -/
theorem find?_perm {α κ : Type} [BEq κ] [LawfulBEq κ] {key : α → κ} {items items' : List α}
    (hperm : items.Perm items') (hnodup : (items.map key).Nodup) (k : κ) :
    items'.find? (fun a => key a == k) = items.find? fun a => key a == k := by
  rw [← List.head?_filter, ← List.head?_filter]
  have hfilter := hperm.filter fun a => key a == k
  by_cases hfound : ∃ a ∈ items, key a = k
  · obtain ⟨a, ha, rfl⟩ := hfound
    rw [filter_key_eq hnodup ha] at hfilter ⊢
    rw [List.singleton_perm.1 hfilter]
  · have hnone : (items.filter fun a => key a == k) = [] := by
      rw [List.filter_eq_nil_iff]
      intro a ha heq
      exact hfound ⟨a, ha, eq_of_beq heq⟩
    rw [hnone] at hfilter ⊢
    rw [List.nil_perm.1 hfilter]

/-- The order of the files does not matter to what is found by name. -/
theorem lookup_perm {files files' : List (Option File)} {s s' : FileSet} {r r' : Registry}
    (hfiles : s.files = some files) (hfiles' : s'.files = some files')
    (hperm : files.Perm files') (hnodup : s.typeNames.Nodup) (h : ofFileSet s = .ok r)
    (h' : ofFileSet s' = .ok r') : SameLookup r r' := by
  obtain ⟨messages, enums, hmessages, henums, hadded, hdistinct⟩ := exists_added h hnodup
  obtain ⟨messages', enums', hmessages', henums', hadded'⟩ := ofFileSet_eq_ok h'
  obtain ⟨_, hsame, hpermMessages⟩ := FileSet.perm_messageTypes hfiles hfiles' hperm hmessages
  obtain rfl := Except.ok.inj (hmessages'.symm.trans hsame)
  obtain ⟨_, hsame, hpermEnums⟩ := FileSet.perm_enumTypes hfiles hfiles' hperm henums
  obtain rfl := Except.ok.inj (henums'.symm.trans hsame)
  have hdeclared : (messages.map ofMessage ++ enums.map ofEnum).Perm
      (messages'.map ofMessage ++ enums'.map ofEnum) :=
    (hpermMessages.map _).append (hpermEnums.map _)
  have hreverse : ((messages.map ofMessage ++ enums.map ofEnum).reverse.map
      Entry.fullName).Nodup := by
    rw [List.map_reverse, List.nodup_reverse]
    exact hdistinct
  have hpermReverse := (List.reverse_perm _).trans (hdeclared.trans (List.reverse_perm _).symm)
  intro name
  -- what a set declares is found before the standard types
  have hlast : ∀ declared : List Entry,
      (wellKnownTypes.map wellKnown ++ declared).reverse.find? (fun e => e.fullName == name) =
        (declared.reverse.find? fun e => e.fullName == name).or
          ((wellKnownTypes.map wellKnown).reverse.find? fun e => e.fullName == name) := by
    intro declared
    rw [List.reverse_append, List.find?_append]
  have hfind : r'.find? name = r.find? name := by
    unfold find?
    rw [hadded, hadded', List.append_assoc, hlast, hlast, find?_perm hpermReverse hreverse]
  rw [lookup, lookup, hfind]

namespace SameLookup

variable {r r' : Registry} (h : SameLookup r r')
include h

/-! ## Code -/

theorem convert (kind : ValueKind) (raw : String) :
    FieldToParse.convert kind raw r' = FieldToParse.convert kind raw r := by
  have hvalue : valueExpression kind raw r' = valueExpression kind raw r := by
    cases kind <;> simp only [valueExpression, h _]
  unfold FieldToParse.convert parseValue
  rw [hvalue]

theorem mergeParsed (f : FieldToParse) (raw : String) :
    f.mergeParsed raw r' = f.mergeParsed raw r := by
  unfold FieldToParse.mergeParsed
  simp only [h.convert]

theorem generate (f : FieldToParse) : f.generate r' = f.generate r := by
  unfold FieldToParse.generate FieldToParse.generateMap FieldToParse.generateRepeated
    FieldToParse.generateSingular
  simp only [h.mergeParsed, h.convert]

theorem renderParser (t : MessageType) : t.renderParser r' = t.renderParser r := by
  unfold MessageType.renderParser MessageType.fromObjectMethod MessageType.emitMethod parseDeclared
  simp only [h.generate]

/-- The parsers of a file are rendered alike. -/
theorem renderParsers (f : File) (runtimePrefix : String) (eligible : MessageType → Bool) :
    f.renderParsers r' runtimePrefix eligible = f.renderParsers r runtimePrefix eligible := by
  unfold File.renderParsers
  simp only [h.renderParser]

end SameLookup

end Registry

end Protogen
