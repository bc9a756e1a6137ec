import Mathlib.Data.List.DropRight
import Protogen.Text.Blank

/-!
# Texts without what stands at their ends

`trimBy` takes off the characters of a class at both ends of a text. `trimBy_eq_self_iff` says what
it leaves as it is, `trimBy_eq_nil_iff` of what it leaves nothing.
-/

set_option autoImplicit false

namespace Protogen.Text

variable {isDropped : Char → Bool} {text : List Char}

theorem trimBy_eq_rdropWhile (isDropped : Char → Bool) (text : List Char) :
    trimBy isDropped text = (text.dropWhile isDropped).rdropWhile isDropped := rfl

theorem trimBy_sublist (isDropped : Char → Bool) (text : List Char) :
    (trimBy isDropped text).Sublist (text.dropWhile isDropped) :=
  (List.rdropWhile_prefix isDropped _).sublist

/-- A text is left as it is if its first and its last character are. -/
theorem trimBy_eq_self_iff :
    trimBy isDropped text = text ↔
      (∀ c ∈ text.head?, isDropped c = false) ∧ ∀ c ∈ text.getLast?, isDropped c = false := by
  have hhead : text.dropWhile isDropped = text ↔ ∀ c ∈ text.head?, isDropped c = false := by
    rw [List.dropWhile_eq_self_iff]
    cases text <;> simp
  have hlast : text.rdropWhile isDropped = text ↔ ∀ c ∈ text.getLast?, isDropped c = false := by
    rw [List.rdropWhile_eq_self_iff]
    rcases List.eq_nil_or_concat text with rfl | ⟨front, c, rfl⟩ <;> simp
  rw [← hhead, ← hlast]
  constructor
  · intro h
    have hlength := (trimBy_sublist isDropped text).length_le
    rw [h] at hlength
    have hfront : text.dropWhile isDropped = text :=
      (List.dropWhile_sublist isDropped).eq_of_length_le hlength
    rw [trimBy_eq_rdropWhile, hfront] at h
    exact ⟨hfront, h⟩
  · rintro ⟨hfront, hback⟩
    rw [trimBy_eq_rdropWhile, hfront, hback]

/-- Nothing is left where every character is of the class. -/
theorem trimBy_eq_nil_iff : trimBy isDropped text = [] ↔ ∀ c ∈ text, isDropped c = true := by
  rw [trimBy_eq_rdropWhile, List.rdropWhile_eq_nil_iff]
  constructor
  · intro h c hc
    rw [← List.takeWhile_append_dropWhile (p := isDropped) (l := text)] at hc
    rcases List.mem_append.1 hc with hfront | hback
    · exact List.mem_takeWhile_imp hfront
    · exact h c hback
  · intro h c hc
    exact h c ((List.dropWhile_sublist isDropped).subset hc)

end Protogen.Text
