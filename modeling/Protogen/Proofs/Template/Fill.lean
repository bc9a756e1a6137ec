import Protogen.Template.Fill

/-!
# Templates with one empty field

A template without braces but for one empty replacement field is filled with any value: the value
stands in the place of the field. Nothing is read into the value, whatever characters it has.

* `isPlain` is a text without braces, `fillFrom_plain` copies it.
* `fill_hole` fills a template with one empty field between two plain texts.
-/

set_option autoImplicit false

namespace Protogen.Template

/-- Whether a text has no braces. -/
def isPlain (text : List Char) : Bool := text.all fun c => c != '\x7b' && c != '\x7d'

theorem isPlain_append {text rest : List Char} :
    isPlain (text ++ rest) = true ↔ isPlain text = true ∧ isPlain rest = true := by
  simp [isPlain]

/-- Plain text is copied. -/
theorem fillFrom_plain
    (expand : Numbering → List Char → Except Fault (List Char × Numbering)) (value : List Char)
    (numbering : Numbering) {text : List Char} (h : isPlain text = true) (rest : List Char) :
    fillFrom expand value numbering .text (text ++ rest) =
      (fillFrom expand value numbering .text rest).map fun r => (text ++ r.1, r.2) := by
  induction text with
  | nil =>
    cases hr : fillFrom expand value numbering .text rest <;> simp [Except.map, hr]
  | cons c text ih =>
    have hc : isPlain [c] = true ∧ isPlain text = true := isPlain_append.1 h
    have hbraces : c ≠ '\x7b' ∧ c ≠ '\x7d' := by simpa [isPlain] using hc.1
    have hstep : fillFrom expand value numbering .text (c :: (text ++ rest)) =
        (fillFrom expand value numbering .text (text ++ rest)).map fun r => (c :: r.1, r.2) := by
      cases hr : fillFrom expand value numbering .text (text ++ rest) <;>
        simp [fillFrom, hbraces, hr] <;> rfl
    rw [List.cons_append, hstep, ih hc.2]
    cases fillFrom expand value numbering .text rest <;> rfl

/-- The value stands in the place of an empty field. -/
theorem fill_hole {before after : String} (value : String)
    (hbefore : isPlain before.toList = true) (hafter : isPlain after.toList = true) :
    fill (before ++ "\x7b\x7d" ++ after) value = .ok (before ++ value ++ after) := by
  have htext : (before ++ "\x7b\x7d" ++ after).toList =
      before.toList ++ '\x7b' :: '\x7d' :: after.toList := by simp
  have hend : ∀ expand numbering, fillFrom expand value.toList numbering .text after.toList =
      .ok (after.toList, numbering) := by
    intro expand numbering
    have hplain := fillFrom_plain expand value.toList numbering hafter []
    simpa [fillFrom, Except.map] using hplain
  have hname : named value.toList .undecided [] = .ok (.text value.toList, .automatic 1) := rfl
  have hfield : fillFrom (fillLayout value.toList) value.toList .undecided .text
      ('\x7b' :: '\x7d' :: after.toList) = .ok (value.toList ++ after.toList, .automatic 1) := by
    simp [fillFrom, hname, hend]
    rfl
  rw [fill, htext, fillFrom_plain _ _ _ hbefore, hfield]
  simp [Except.map, String.append_assoc]

end Protogen.Template
