import Protogen.Naming
import Protogen.Proofs.Template.Fill

/-!
# Accessors of fields

No letter has a brace, a quote or a line feed as its upper case, so that a name without them gives
accessors without them (`mem_pascalCase`). Types with different names have different types and parsers
in the generated code.
-/

set_option autoImplicit false

namespace Protogen

open Template

namespace Text

theorem toNat_ofNat (n : Nat) : (Char.ofNat n).toNat = n ∨ (Char.ofNat n).toNat = 0 := by
  by_cases h : n.isValidChar
  · left
    rw [Char.ofNat, dif_pos h]
    rfl
  · right
    rw [Char.ofNat, dif_neg h]
    rfl

/-- Characters that are the upper case of no other character. -/
def uncased : List Char := ['\x7b', '\x7d', '\'', '\n']

theorem mem_upper {c d : Char} (hd : d ∈ uncased) (h : d ∈ upper c) : d = c := by
  -- the tables are compared with the codes of these characters
  have hrun : ∀ run ∈ caseRuns, ∀ n ∈ uncased.map Char.toNat,
      n < run.target ∨ run.target + (run.last - run.first) < n := by
    decide +kernel
  have hlong : ∀ entry ∈ longUpper, ∀ n ∈ uncased.map Char.toNat,
      n ∉ (entry.2.map Char.ofNat).map Char.toNat := by
    decide +kernel
  have hnull : 0 ∉ uncased.map Char.toNat := by decide
  have hcode : d.toNat ∈ uncased.map Char.toNat := List.mem_map_of_mem hd
  unfold upper at h
  split at h
  · rename_i run hfind
    have hcovers := List.find?_some hfind
    simp only [CaseRun.covers, Bool.and_eq_true, decide_eq_true_eq] at hcovers
    have hoff := hrun run (List.mem_of_find?_eq_some hfind) _ hcode
    have htarget := toNat_ofNat (run.target + (c.toNat - run.first))
    rw [← List.mem_singleton.1 h] at htarget
    have hne : d.toNat ≠ 0 := fun heq => hnull (heq ▸ hcode)
    omega
  · split at h
    · rename_i codes hlookup
      obtain ⟨front, rest, heq, -⟩ := List.lookup_eq_some_iff.1 hlookup
      have hentry : (c.toNat, codes) ∈ longUpper := by simp [heq]
      exact absurd (List.mem_map_of_mem h) (hlong _ hentry _ hcode)
    · exact List.mem_singleton.1 h

end Text

namespace Naming

open Text

theorem mem_camelChars {name : List Char} {d : Char} (hd : d ∈ uncased) {raised : Bool}
    (h : d ∈ camelChars raised name) : d ∈ name := by
  induction name generalizing raised with
  | nil => simp [camelChars] at h
  | cons c name ih =>
    unfold camelChars at h
    split at h
    · exact List.mem_cons_of_mem _ (ih h)
    · rcases List.mem_append.1 h with h | h
      · have hc : d = c := by
          split at h
          · exact mem_upper hd h
          · exact List.mem_singleton.1 h
        exact hc ▸ List.mem_cons_self ..
      · exact List.mem_cons_of_mem _ (ih h)

/-- An accessor has no such character if the name of the field has none. -/
theorem mem_pascalCase {name : String} {d : Char} (hd : d ∈ uncased)
    (h : d ∈ (pascalCase name).toList) : d ∈ name.toList := by
  rw [pascalCase, String.toList_ofList] at h
  cases hchars : camelChars false name.toList with
  | nil => simp [hchars, capitalize] at h
  | cons c rest =>
    have hcamel : d ∈ camelChars false name.toList := by
      rw [hchars, capitalize, List.mem_append] at h
      rw [hchars]
      rcases h with h | h
      · exact mem_upper hd h ▸ List.mem_cons_self ..
      · exact List.mem_cons_of_mem _ h
    exact mem_camelChars hd hcamel

theorem isPlain_pascalCase {name : String} (h : isPlain name.toList = true) :
    isPlain (pascalCase name).toList = true := by
  have hbraces : '\x7b' ∉ name.toList ∧ '\x7d' ∉ name.toList := by
    simp only [isPlain, List.all_eq_true, Bool.and_eq_true, bne_iff_ne] at h
    exact ⟨fun hmem => (h _ hmem).1 rfl, fun hmem => (h _ hmem).2 rfl⟩
  simp only [isPlain, List.all_eq_true, Bool.and_eq_true, bne_iff_ne]
  intro c hc
  constructor
  · rintro rfl
    exact hbraces.1 (mem_pascalCase (by decide) hc)
  · rintro rfl
    exact hbraces.2 (mem_pascalCase (by decide) hc)

theorem typeName_injective : Function.Injective typeName := by
  intro a b h
  simpa [typeName] using h

theorem parserName_injective : Function.Injective parserName := by
  intro a b h
  have hname : typeName a = typeName b := by simpa [parserName] using h
  exact typeName_injective hname

end Naming

end Protogen
