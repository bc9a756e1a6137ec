import Mathlib.Data.List.Basic
import Protogen.Text.Basic

/-!
# Where texts are cut

`cut?` splits a text at the first occurrence of a marker. Which place that is depends only on what
stands in front of the end of the marker.

* `dropStart?_append` and `dropEnd?_append` take off what was put in front or behind, and
  `startsWith_iff` says when a text begins with another one.
* `cut?_append` is the cut at a marker with a character that the text in front of it does not
  have; `cut?_eq_none` is a text without a marker, and `cut?_eq_none_iff` says which these are.
* `length_le_of_cut?` says that a cut is at the first occurrence of the marker, and
  `not_isInfix_of_cut?` that there is none in front of it.
* `cut?_congr_after` keeps the cut when the text behind the marker changes.
-/

set_option autoImplicit false

namespace Protogen.Text

variable {marker text before after : List Char} {c d : Char}

@[simp] theorem dropStart?_append (start rest : List Char) :
    dropStart? start (start ++ rest) = some rest :=
  dropStart?_eq_some_iff.2 rfl

@[simp] theorem dropEnd?_append (rest ending : List Char) :
    dropEnd? ending (rest ++ ending) = some rest :=
  dropEnd?_eq_some_iff.2 rfl

theorem startsWith_iff {start text : String} :
    startsWith start text = true ↔ ∃ rest, text.toList = start.toList ++ rest := by
  simp [startsWith, Option.isSome_iff_exists, dropStart?_eq_some_iff]

/-- Texts with other first characters do not begin alike. -/
theorem startsWith_eq_false {start text : String} (hstart : start.toList.head? = some c)
    (htext : text.toList.head? = some d) (hne : d ≠ c) : startsWith start text = false := by
  rw [← Bool.not_eq_true, startsWith_iff]
  rintro ⟨rest, hrest⟩
  rw [hrest, List.head?_append, hstart] at htext
  exact hne (Option.some.inj htext).symm

theorem dropStart?_eq_none_iff {start : List Char} :
    dropStart? start text = none ↔ ∀ rest, text ≠ start ++ rest := by
  constructor
  · intro h rest hrest
    rw [dropStart?_eq_some_iff.2 hrest] at h
    cases h
  · intro h
    cases hd : dropStart? start text with
    | none => rfl
    | some rest => exact absurd (dropStart?_eq_some_iff.1 hd) (h rest)

theorem dropEnd?_eq_none_iff {ending : List Char} :
    dropEnd? ending text = none ↔ ∀ rest, text ≠ rest ++ ending := by
  constructor
  · intro h rest hrest
    rw [dropEnd?_eq_some_iff.2 hrest] at h
    cases h
  · intro h
    cases hd : dropEnd? ending text with
    | none => rfl
    | some rest => exact absurd (dropEnd?_eq_some_iff.1 hd) (h rest)

theorem dropStart?_eq_none_of_not_mem {start : List Char} (hs : d ∈ start) (ht : d ∉ text) :
    dropStart? start text = none := by
  rw [dropStart?_eq_none_iff]
  rintro rest rfl
  exact ht (List.mem_append_left _ hs)

/-- A text that closes with another character than the ending. -/
theorem dropEnd?_of_getLast?_ne {ending : List Char} (hne : ending ≠ [])
    (h : text.getLast? ≠ ending.getLast?) : dropEnd? ending text = none := by
  rw [dropEnd?_eq_none_iff]
  rintro rest rfl
  exact h (List.getLast?_append_of_ne_nil _ hne)

/-- A text that closes with another ending of the same length. -/
theorem dropEnd?_append_of_ne {ending other : List Char} (hlen : ending.length = other.length)
    (h : ending ≠ other) : dropEnd? ending (text ++ other) = none := by
  rw [dropEnd?_eq_none_iff]
  intro rest heq
  exact h (List.append_inj_right' heq hlen.symm).symm

/-- A last character that the text and the ending share does not count. -/
theorem dropEnd?_concat (ending text : List Char) (c : Char) :
    dropEnd? (ending ++ [c]) (text ++ [c]) = dropEnd? ending text := by
  simp [dropEnd?, dropStart?]

/-- The marker is not at the beginning of a text that has something more in front of the first
occurrence of one of its characters. -/
theorem dropStart?_of_not_mem (hm : d ∈ marker) (hb : d ∉ before) (hne : before ≠ []) :
    dropStart? marker (before ++ marker ++ after) = none := by
  rw [dropStart?_eq_none_iff]
  intro rest heq
  -- the first occurrence of `d` is at different places on the two sides
  have hleft : (before ++ marker ++ after).idxOf d = before.length + marker.idxOf d := by
    rw [List.idxOf_append_of_mem (List.mem_append_right _ hm), List.idxOf_append_of_notMem hb]
  have hright : (marker ++ rest).idxOf d = marker.idxOf d := List.idxOf_append_of_mem hm
  have hlength : before.length = 0 := by
    rw [heq, hright] at hleft
    omega
  exact hne (List.length_eq_zero_iff.1 hlength)

theorem cut?_append (after : List Char) (hm : d ∈ marker) (hb : d ∉ before) :
    cut? marker (before ++ marker ++ after) = some (before, after) := by
  induction before with
  | nil =>
    obtain ⟨c, marker, rfl⟩ := List.exists_cons_of_ne_nil (List.ne_nil_of_mem hm)
    have hdrop : dropStart? (c :: marker) (c :: (marker ++ after)) = some after :=
      dropStart?_append (c :: marker) after
    simp [cut?, hdrop]
  | cons c before ih =>
    have hdrop : dropStart? marker (c :: before ++ marker ++ after) = none :=
      dropStart?_of_not_mem hm hb (List.cons_ne_nil _ _)
    simp only [List.cons_append] at hdrop ⊢
    rw [cut?, hdrop, ih (fun h => hb (List.mem_cons_of_mem _ h))]
    rfl

theorem cut?_eq_none (hm : d ∈ marker) (hb : d ∉ text) : cut? marker text = none := by
  cases hc : cut? marker text with
  | none => rfl
  | some parts =>
    have heq := eq_of_cut? hc
    rw [heq] at hb
    exact absurd (List.mem_append_left _ (List.mem_append_right _ hm)) hb

/-- A marker at the beginning of a text is found there. -/
theorem cut?_of_dropStart? (h : dropStart? marker text = some after) :
    cut? marker text = some ([], after) := by
  cases text with
  | nil => simp [cut?, h]
  | cons c text => simp [cut?, h]

/-- A text is cut if the marker occurs in it. -/
theorem cut?_eq_none_iff : cut? marker text = none ↔ ¬marker <:+: text := by
  constructor
  · rintro h ⟨before, after, rfl⟩
    induction before with
    | nil =>
      rw [List.nil_append, cut?_of_dropStart? (dropStart?_append marker after)] at h
      cases h
    | cons c before ih =>
      rw [List.cons_append, List.cons_append, cut?] at h
      split at h
      · cases h
      · exact ih (Option.map_eq_none_iff.1 h)
  · intro h
    cases hcut : cut? marker text with
    | none => rfl
    | some parts => exact absurd ⟨parts.1, parts.2, (eq_of_cut? hcut).symm⟩ h

/-- A cut is at the first occurrence of the marker. -/
theorem length_le_of_cut? {before' after' : List Char}
    (h : cut? marker text = some (before, after)) (htext : text = before' ++ marker ++ after') :
    before.length ≤ before'.length := by
  induction text generalizing before before' with
  | nil =>
    simp only [cut?, Option.map_eq_some_iff, Prod.mk.injEq] at h
    obtain ⟨rest, -, rfl, -⟩ := h
    exact Nat.zero_le _
  | cons c text ih =>
    cases before' with
    | nil =>
      have hd : dropStart? marker (c :: text) = some after' := by
        rw [htext]
        exact dropStart?_append marker after'
      rw [cut?_of_dropStart? hd] at h
      cases h
      exact Nat.le_refl _
    | cons c' before' =>
      cases hd : dropStart? marker (c :: text) with
      | some rest =>
        rw [cut?_of_dropStart? hd] at h
        cases h
        exact Nat.zero_le _
      | none =>
        simp only [cut?, hd, Option.map_eq_some_iff] at h
        obtain ⟨⟨b, a⟩, hcut, heq⟩ := h
        cases heq
        have hrest := ih hcut (List.cons_eq_cons.1 htext).2
        exact Nat.succ_le_succ hrest

/-- The marker does not occur in front of a cut. -/
theorem not_isInfix_of_cut? (hmarker : marker ≠ [])
    (h : cut? marker text = some (before, after)) : ¬marker <:+: before := by
  rintro ⟨start, more, rfl⟩
  have htext : text = start ++ marker ++ (more ++ marker ++ after) := by
    rw [eq_of_cut? h]
    simp only [List.append_assoc]
  have hlength := length_le_of_cut? h htext
  have hpos := List.length_pos_iff.2 hmarker
  simp only [List.length_append] at hlength
  omega

/-- Whether a text begins with the marker does not depend on what stands behind as many
characters as the marker has. -/
theorem dropStart?_congr_after (hnone : dropStart? marker (before ++ marker ++ after) = none)
    (after' : List Char) : dropStart? marker (before ++ marker ++ after') = none := by
  rw [dropStart?_eq_none_iff] at hnone ⊢
  intro rest heq
  have hprefix : marker <+: before ++ marker ++ after' := ⟨rest, heq.symm⟩
  have hwhole : before ++ marker <+: before ++ marker ++ after' := List.prefix_append _ _
  have hlength : marker.length ≤ (before ++ marker).length := by
    rw [List.length_append]
    omega
  obtain ⟨more, hmore⟩ := List.prefix_of_prefix_length_le hprefix hwhole hlength
  exact hnone (more ++ after) (by rw [← hmore, List.append_assoc])

/-- The text behind the marker does not matter for the place of the cut. -/
theorem cut?_congr_after (h : cut? marker text = some (before, after)) (after' : List Char) :
    cut? marker (before ++ marker ++ after') = some (before, after') := by
  have htext := eq_of_cut? h
  induction text generalizing before with
  | nil =>
    simp only [List.nil_eq, List.append_eq_nil_iff] at htext
    obtain ⟨⟨rfl, rfl⟩, -⟩ := htext
    exact cut?_of_dropStart? rfl
  | cons c text ih =>
    cases hd : dropStart? marker (c :: text) with
    | some rest =>
      rw [cut?_of_dropStart? hd] at h
      cases h
      exact cut?_of_dropStart? (dropStart?_append marker after')
    | none =>
      simp only [cut?, hd, Option.map_eq_some_iff] at h
      obtain ⟨⟨b, a⟩, hcut, heq⟩ := h
      cases heq
      have hnone : dropStart? marker (c :: b ++ marker ++ after') = none :=
        dropStart?_congr_after (htext ▸ hd) after'
      have hrest := ih hcut (eq_of_cut? hcut)
      simp only [List.cons_append] at hnone ⊢
      rw [cut?, hnone, hrest]
      rfl

end Protogen.Text
