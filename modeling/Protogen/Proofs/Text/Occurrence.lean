import Mathlib.Data.List.Basic

/-!
# Occurrences in texts

* `exists_infix_of_intercalate`: a text without line feeds that occurs in lines joined by line feeds
  occurs in one of the lines; `mem_of_mem_splitOn_intercalate` takes the lines apart again.
* `infix_intercalate` and `mem_splitOn_intercalate` go the other way, whatever the lines are.
* `eq_of_between`: in a text with two quotes, what occurs between two quotes is what stands between
  them.
-/

set_option autoImplicit false

namespace Protogen.Text

variable {α : Type} {sep : α} {word a b : List α}

/-- What occurs around no separator occurs before or behind it. -/
theorem infix_append_cons (hword : sep ∉ word) (h : word <:+: a ++ sep :: b) :
    word <:+: a ∨ word <:+: b := by
  obtain ⟨before, after, heq⟩ := h
  rcases List.append_eq_append_iff.1 heq with ⟨rest, ha, -⟩ | ⟨rest, hleft, hright⟩
  · exact .inl ⟨before, rest, ha.symm⟩
  · rcases List.cons_eq_append_iff.1 hright with ⟨rfl, -⟩ | ⟨middle, rfl, rfl⟩
    · rw [List.append_nil] at hleft
      exact .inl ⟨before, [], by rw [List.append_nil, hleft]⟩
    · -- the separator lies before the word
      rcases List.append_eq_append_iff.1 hleft with ⟨front, -, hword'⟩ | ⟨front, -, hmiddle⟩
      · exact absurd (by simp [hword']) hword
      · rcases List.cons_eq_append_iff.1 hmiddle with ⟨-, hword'⟩ | ⟨back, -, rfl⟩
        · exact absurd (by simp [hword']) hword
        · exact .inr ⟨back, after, rfl⟩

/-- Each of the joined texts occurs. -/
theorem infix_intercalate {parts : List (List α)} {part : List α} (h : part ∈ parts)
    (separator : List α) : part <:+: separator.intercalate parts := by
  induction parts with
  | nil => cases h
  | cons first parts ih =>
    cases parts with
    | nil =>
      obtain rfl := List.mem_singleton.1 h
      exact List.intercalate_singleton ▸ List.infix_refl part
    | cons second parts =>
      rw [List.intercalate_cons_cons]
      rcases List.mem_cons.1 h with rfl | hrest
      · rw [List.append_assoc]
        exact (List.prefix_append _ _).isInfix
      · exact (ih hrest).trans (List.suffix_append _ _).isInfix

/-- Some of the texts, joined, are what is left of all of them. -/
theorem sublist_intercalate {separator : List α} {pieces others : List (List α)}
    (h : pieces.Sublist others) :
    (separator.intercalate pieces).Sublist (separator.intercalate others) := by
  induction h with
  | slnil => exact List.Sublist.refl _
  | @cons pieces others piece h ih =>
    cases others with
    | nil =>
      rw [List.sublist_nil.1 h]
      exact List.nil_sublist _
    | cons other others =>
      rw [List.intercalate_cons_cons]
      exact ih.trans (List.sublist_append_right _ _)
  | @cons_cons pieces others piece h ih =>
    cases pieces with
    | nil =>
      rw [List.intercalate_singleton]
      cases others with
      | nil => rw [List.intercalate_singleton]
      | cons other others =>
        rw [List.intercalate_cons_cons, List.append_assoc]
        exact List.sublist_append_left _ _
    | cons first pieces =>
      obtain ⟨other, others, rfl⟩ := List.exists_cons_of_ne_nil (List.ne_nil_of_mem
        (h.subset (List.mem_cons_self ..)))
      rw [List.intercalate_cons_cons, List.intercalate_cons_cons]
      exact (List.Sublist.refl _).append ih

/-- What occurs in joined lines and has no separator occurs in one of them. -/
theorem exists_infix_of_intercalate {ls : List (List α)} (hword : sep ∉ word) (hne : word ≠ [])
    (h : word <:+: [sep].intercalate ls) : ∃ line ∈ ls, word <:+: line := by
  induction ls with
  | nil => exact absurd (List.infix_nil.1 h) hne
  | cons line ls ih =>
    cases ls with
    | nil => exact ⟨line, List.mem_cons_self .., by simpa using h⟩
    | cons next ls =>
      rw [List.intercalate_cons_cons, List.append_assoc] at h
      rcases infix_append_cons hword h with h | h
      · exact ⟨line, List.mem_cons_self .., h⟩
      · obtain ⟨found, hmem, hinfix⟩ := ih h
        exact ⟨found, List.mem_cons_of_mem _ hmem, hinfix⟩

/-- The pieces of joined lines are the lines; no line at all makes an empty piece. -/
theorem mem_of_mem_splitOn_intercalate [BEq α] [LawfulBEq α] {ls : List (List α)} {piece : List α}
    (hls : ∀ line ∈ ls, sep ∉ line) (h : piece ∈ ([sep].intercalate ls).splitOn sep) :
    piece = [] ∨ piece ∈ ls := by
  by_cases hempty : ls = []
  · subst hempty
    exact .inl (by simpa using h)
  · rw [List.splitOn_intercalate sep hls hempty] at h
    exact .inr h

/-- A piece of one of the joined texts is a piece of the whole. -/
theorem mem_splitOn_intercalate [BEq α] [ReflBEq α] {ls : List (List α)} {line piece : List α}
    (hline : line ∈ ls) (h : piece ∈ line.splitOn sep) :
    piece ∈ ([sep].intercalate ls).splitOn sep := by
  induction ls with
  | nil => cases hline
  | cons first ls ih =>
    cases ls with
    | nil =>
      obtain rfl := List.mem_singleton.1 hline
      rwa [List.intercalate_singleton]
    | cons second ls =>
      rw [List.intercalate_cons_cons, List.append_assoc, List.singleton_append, List.splitOn,
        List.splitOnP_append_cons (p := (· == sep)) _ _ BEq.rfl, List.mem_append]
      rcases List.mem_cons.1 hline with rfl | hrest
      · exact .inl h
      · exact .inr (ih hrest)

/-- What occurs between two separators is what stands between the only two of a text. -/
theorem eq_of_between {middle x u y : List α} (ha : sep ∉ a) (hmiddle : sep ∉ middle)
    (hb : sep ∉ b) (h : x ++ sep :: (u ++ sep :: y) <:+: a ++ sep :: (middle ++ sep :: b)) :
    x <:+ a ∧ u = middle := by
  obtain ⟨before, after, heq⟩ := h
  have hsplit : (before ++ x) ++ sep :: (u ++ sep :: (y ++ after)) =
      a ++ sep :: (middle ++ sep :: b) := by
    rw [← heq]
    simp
  rcases List.append_eq_append_iff.1 hsplit with ⟨rest, rfl, hright⟩ | ⟨rest, hleft, hright⟩
  · rcases List.cons_eq_append_iff.1 hright with ⟨rfl, hright⟩ | ⟨back, rfl, -⟩
    · obtain ⟨hu, -, -⟩ :=
        (List.append_cons_inj_of_notMem hmiddle hb).1 (List.cons.inj hright).2.symm
      exact ⟨⟨before, by simp⟩, hu.symm⟩
    · exact absurd (by simp) ha
  · rcases List.cons_eq_append_iff.1 hright with ⟨rfl, hright⟩ | ⟨back, rfl, hback⟩
    · obtain ⟨hu, -, -⟩ := (List.append_cons_inj_of_notMem hmiddle hb).1 (List.cons.inj hright).2
      rw [List.append_nil] at hleft
      exact ⟨⟨before, hleft⟩, hu.symm⟩
    · -- the first of the two would be the second of the text
      obtain ⟨-, -, hlast⟩ := (List.append_cons_inj_of_notMem hmiddle hb).1 hback
      exact absurd (by simp [hlast]) hb

end Protogen.Text
