/-!
# Cutting texts

Texts are cut as lists of characters.

* `dropStart?` and `dropEnd?` remove a known beginning or end.
* `cut?` splits a text at the first occurrence of a marker; `replaceFirst` puts another text there.
* `split` is the list of pieces between separators, of which `String.intercalate` is the inverse.
-/

set_option autoImplicit false

namespace Protogen.Text

/-- What follows `start`, if the text begins with it. -/
def dropStart? : List Char → List Char → Option (List Char)
  | [], text => some text
  | _ :: _, [] => none
  | a :: start, b :: text => if a = b then dropStart? start text else none

/-- What precedes `ending`, if the text closes with it. -/
def dropEnd? (ending text : List Char) : Option (List Char) :=
  (dropStart? ending.reverse text.reverse).map List.reverse

/-- The text before and the text after the first occurrence of `marker`. -/
def cut? (marker : List Char) : List Char → Option (List Char × List Char)
  | [] => (dropStart? marker []).map ([], ·)
  | c :: text =>
    match dropStart? marker (c :: text) with
    | some after => some ([], after)
    | none => (cut? marker text).map fun parts => (c :: parts.1, parts.2)

/-- Whether `marker` occurs in the text. -/
def occurs (marker text : List Char) : Bool := (cut? marker text).isSome

/-- The text with the first occurrence of `marker` replaced; unchanged if there is none. -/
def replaceFirst (marker replacement text : List Char) : List Char :=
  match cut? marker text with
  | some (before, after) => before ++ replacement ++ after
  | none => text

/-- The pieces of a text between separators: one more than there are separators. -/
def split (separator : Char) (text : String) : List String :=
  (text.toList.splitOn separator).map String.ofList

/-- The text without the separators that stand at its beginning. -/
def dropLeading (separator : Char) (text : String) : String :=
  String.ofList (text.toList.dropWhile (· == separator))

/-- Whether the text begins with `start`. -/
def startsWith (start text : String) : Bool := (dropStart? start.toList text.toList).isSome

theorem dropStart?_eq_some_iff {start text rest : List Char} :
    dropStart? start text = some rest ↔ text = start ++ rest := by
  induction start generalizing text with
  | nil => simp [dropStart?]
  | cons a start ih =>
    cases text with
    | nil => simp [dropStart?]
    | cons b text => by_cases h : a = b <;> simp [dropStart?, h, ih, eq_comm]

theorem dropEnd?_eq_some_iff {ending text rest : List Char} :
    dropEnd? ending text = some rest ↔ text = rest ++ ending := by
  simp only [dropEnd?, Option.map_eq_some_iff, dropStart?_eq_some_iff]
  constructor
  · rintro ⟨a, h, rfl⟩
    simpa using congrArg List.reverse h
  · rintro rfl
    exact ⟨rest.reverse, by simp, by simp⟩

/-- The two parts of a cut and the marker between them are the whole text. -/
theorem eq_of_cut? {marker text before after : List Char}
    (h : cut? marker text = some (before, after)) : text = before ++ marker ++ after := by
  induction text generalizing before after with
  | nil =>
    simp only [cut?, Option.map_eq_some_iff, dropStart?_eq_some_iff, Prod.mk.injEq] at h
    obtain ⟨a, h, rfl, rfl⟩ := h
    simpa using h
  | cons c text ih =>
    simp only [cut?] at h
    split at h
    · rename_i rest hd
      cases h
      simpa using dropStart?_eq_some_iff.1 hd
    · obtain ⟨⟨b, a⟩, hc, heq⟩ := Option.map_eq_some_iff.1 h
      cases heq
      simp [ih hc]

end Protogen.Text
