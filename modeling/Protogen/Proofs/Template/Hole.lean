import Protogen.Proofs.Failure
import Protogen.Proofs.Template.Fill

/-!
# Templates that end in an empty field

A template may begin with any text, braces included, and end in an empty field. Where it can be
filled, nothing before that field is a field: two fields, of which one is empty, are numbered in
two ways or ask for a second value, and an empty field inside another one is none.

* `Reads` lists the steps of a reader of templates that gets to the end; `reads_of_fillFrom` finds
  them.
* `Reads.through_hole` follows these steps to the empty field at the end.
* `fill_trailing_hole` is the filled text: the value, behind characters of the template.
-/

set_option autoImplicit false

namespace Protogen.Template

/-- Whether the fields of a template have been numbered in some way. -/
def Numbering.isDecided : Numbering → Bool
  | .undecided => false
  | .automatic next => next != 0
  | .manual => true

namespace Place

/-- Whether a place is inside a field. -/
def IsField : Place → Prop
  | .text => False
  | .layout _ _ _ depth => 0 < depth
  | _ => True

/-- Whether a closing brace may end the field. -/
def Closes : Place → Prop
  | .name _ inBracket => inBracket = false
  | .afterConversion _ c => c ≠ '\x7b'
  | .layout _ _ _ depth => depth = 1
  | _ => False

end Place

/-- The steps of a reader that gets to the end of a template, with the text that it fills in and
the numbering at its end. -/
inductive Reads (value : List Char) :
    Numbering → Place → List Char → List Char × Numbering → Prop
  | done (numbering : Numbering) : Reads value numbering .text [] ([], numbering)
  | copied {numbering : Numbering} {c : Char} {rest : List Char} {r : List Char × Numbering}
      (hopen : c ≠ '\x7b') (hclose : c ≠ '\x7d') (tail : Reads value numbering .text rest r) :
      Reads value numbering .text (c :: rest) (c :: r.1, r.2)
  | doubled {numbering : Numbering} {c : Char} {rest : List Char} {r : List Char × Numbering}
      (hbrace : c = '\x7b' ∨ c = '\x7d') (tail : Reads value numbering .text rest r) :
      Reads value numbering .text (c :: c :: rest) (c :: r.1, r.2)
  | opened {numbering : Numbering} {rest : List Char} {r : List Char × Numbering}
      (tail : Reads value numbering (.name [] false) rest r) :
      Reads value numbering .text ('\x7b' :: rest) r
  /-- a step inside a field; an opening brace does not lead to where the field may end -/
  | inside {numbering : Numbering} {place next : Place} {c : Char} {rest : List Char}
      {r : List Char × Numbering} (tail : Reads value numbering next rest r)
      (hplace : place.IsField) (hnext : next.IsField) (hopen : c = '\x7b' → ¬next.Closes) :
      Reads value numbering place (c :: rest) r
  | empty {numbering : Numbering} {rest : List Char} {r : List Char × Numbering}
      (hnumber : numbering.isDecided = false) (tail : Reads value (.automatic 1) .text rest r) :
      Reads value numbering (.name [] false) ('\x7d' :: rest) (value ++ r.1, r.2)
  | closed {numbering next : Numbering} {place : Place} {rest : List Char}
      {r : List Char × Numbering} (found : List Char) (hplace : place.IsField)
      (hcloses : place.Closes) (hname : place ≠ .name [] false) (hnumber : next.isDecided = true)
      (tail : Reads value next .text rest r) :
      Reads value numbering place ('\x7d' :: rest) (found ++ r.1, r.2)

/-! ## The steps of the reader -/

/-- Layouts are filled without giving up a way of numbering. -/
def KeepsDecided (expand : Numbering → List Char → Except Fault (List Char × Numbering)) : Prop :=
  ∀ numbering layout r, numbering.isDecided = true → expand numbering layout = .ok r →
    r.2.isDecided = true

variable {expand : Numbering → List Char → Except Fault (List Char × Numbering)}
  {value : List Char} {numbering : Numbering} {place : Place}

/-- A field that is found decides the numbering. -/
theorem isDecided_of_named {name : List Char} {r : Subject × Numbering}
    (h : named value numbering name = .ok r) : r.2.isDecided = true := by
  unfold named at h
  dsimp only at h
  split at h
  · split at h
    · cases h
    · obtain ⟨subject, -, h⟩ := bind_eq_ok.1 h
      cases h
      rfl
    · split at h
      · obtain ⟨subject, -, h⟩ := bind_eq_ok.1 h
        cases h
        rfl
      · cases h
  · obtain ⟨number, -, h⟩ := bind_eq_ok.1 h
    split at h
    · cases h
    · split at h
      · cases h
      · split at h
        · obtain ⟨subject, -, h⟩ := bind_eq_ok.1 h
          cases h
          rfl
        · cases h

/-- An empty field stands for the value, and has to be the first one. -/
theorem named_nil {r : Subject × Numbering} (h : named value numbering [] = .ok r) :
    numbering.isDecided = false ∧ r = (.text value, .automatic 1) := by
  cases numbering with
  | undecided =>
    cases h
    exact ⟨rfl, rfl⟩
  | automatic n =>
    cases n with
    | zero =>
      cases h
      exact ⟨rfl, rfl⟩
    | succ n => cases h
  | manual => cases h

/-- No conversion is written as an opening brace. -/
theorem ne_open_of_convert {subject converted : Subject} {c : Char}
    (h : convert subject (some c) = .ok converted) : c ≠ '\x7b' := by
  rintro rfl
  cases h

theorem reads_of_fillFrom (hexpand : KeepsDecided expand) {text : List Char}
    {r : List Char × Numbering} (hplace : place = .text ∨ place.IsField)
    (h : fillFrom expand value numbering place text = .ok r) :
    Reads value numbering place text r := by
  fun_induction fillFrom expand value numbering place text generalizing r with
  | case1 numbering =>
    cases h
    exact .done numbering
  | case2 numbering rest ih =>
    obtain ⟨tail, htail, h⟩ := bind_eq_ok.1 h
    cases h
    exact .doubled (.inl rfl) (ih (.inl rfl) htail)
  | case3 numbering rest ih =>
    obtain ⟨tail, htail, h⟩ := bind_eq_ok.1 h
    cases h
    exact .doubled (.inr rfl) (ih (.inl rfl) htail)
  | case4 => cases h
  | case5 => cases h
  | case6 numbering c rest _ _ _ _ hopen ih =>
    obtain rfl : c = '\x7b' := by simpa using hopen
    exact .opened (ih (.inr trivial) h)
  | case7 numbering c rest _ _ _ hclose hopen ih =>
    obtain ⟨tail, htail, h⟩ := bind_eq_ok.1 h
    cases h
    exact .copied (by simpa using hopen) (by simpa using hclose) (ih (.inl rfl) htail)
  | case8 => cases h
  | case9 numbering name c rest ih =>
    -- an opening brace in brackets leaves them open
    refine .inside (ih (.inr trivial) h) trivial trivial ?_
    rintro rfl hcloses
    cases hcloses
  | case10 => cases h
  | case11 numbering name c rest _ hclose ih =>
    obtain rfl : c = '\x7d' := by simpa using hclose
    obtain ⟨found, hfound, h⟩ := bind_eq_ok.1 h
    obtain ⟨tail, htail, h⟩ := bind_eq_ok.1 h
    cases h
    have hrest := ih found.2 (.inl rfl) htail
    by_cases hname : name = []
    · subst hname
      obtain ⟨hnumber, rfl⟩ := named_nil hfound
      exact .empty hnumber hrest
    · exact .closed found.1.shown trivial rfl (by simpa using hname) (isDecided_of_named hfound)
        hrest
  | case12 numbering name c rest hopen _ _ ih =>
    exact .inside (ih (.inr Nat.one_pos) h) trivial Nat.one_pos
      fun hc => absurd hc (by simpa using hopen)
  | case13 numbering name c rest hopen _ _ _ ih =>
    exact .inside (ih (.inr trivial) h) trivial trivial fun _ => id
  | case14 numbering name c rest hopen _ _ _ ih =>
    exact .inside (ih (.inr trivial) h) trivial trivial fun hc => absurd hc (by simpa using hopen)
  | case15 => cases h
  | case16 numbering name c rest ih =>
    exact .inside (ih (.inr trivial) h) trivial trivial fun hc hcloses => hcloses hc
  | case17 => cases h
  | case18 numbering name conversion c rest hclose ih =>
    obtain rfl : c = '\x7d' := by simpa using hclose
    obtain ⟨found, hfound, h⟩ := bind_eq_ok.1 h
    obtain ⟨converted, hconverted, h⟩ := bind_eq_ok.1 h
    obtain ⟨tail, htail, h⟩ := bind_eq_ok.1 h
    cases h
    exact .closed converted.shown trivial (ne_open_of_convert hconverted) (by simp)
      (isDecided_of_named hfound) (ih found.2 (.inl rfl) htail)
  | case19 numbering name conversion c rest _ hlayout ih =>
    obtain rfl : c = ':' := by simpa using hlayout
    exact .inside (ih (.inr Nat.one_pos) h) trivial Nat.one_pos fun hc => absurd hc (by decide)
  | case20 => cases h
  | case21 => cases h
  | case22 numbering name conversion layout depth c rest hclose ih =>
    obtain ⟨rfl, rfl⟩ : c = '\x7d' ∧ depth = 1 := by simpa using hclose
    obtain ⟨found, hfound, h⟩ := bind_eq_ok.1 h
    obtain ⟨converted, -, h⟩ := bind_eq_ok.1 h
    obtain ⟨spelled, hspelled, h⟩ := bind_eq_ok.1 h
    obtain ⟨laid, -, h⟩ := bind_eq_ok.1 h
    obtain ⟨tail, htail, h⟩ := bind_eq_ok.1 h
    cases h
    have hnumber := hexpand _ _ _ (isDecided_of_named hfound) hspelled
    exact .closed laid Nat.one_pos rfl (by simp) hnumber (ih spelled.2 (.inl rfl) htail)
  | case23 =>
    rename_i depth c rest hclose next ih
    have hfield : 0 < depth := by simpa [Place.IsField] using hplace
    have hlast : c = '\x7d' → depth ≠ 1 := by simpa using hclose
    have hnext : 0 < next := by
      simp only [next, beq_iff_eq]
      split
      · omega
      · split
        · rename_i hc
          have := hlast hc
          omega
        · exact hfield
    refine .inside (ih (.inr hnext) h) hfield hnext ?_
    rintro rfl hcloses
    have hdeeper : next = depth + 1 := by simp [next]
    have hone : next = 1 := hcloses
    omega

namespace Reads

variable {text : List Char} {r : List Char × Numbering}

/-- A numbering is not given up. -/
theorem isDecided (h : Reads value numbering place text r) (hdecided : numbering.isDecided = true) :
    r.2.isDecided = true := by
  induction h with
  | done => exact hdecided
  | copied _ _ _ ih => exact ih hdecided
  | doubled _ _ ih => exact ih hdecided
  | opened _ ih => exact ih hdecided
  | inside _ _ _ _ ih => exact ih hdecided
  | empty _ _ ih => exact ih rfl
  | closed _ _ _ _ hnumber _ ih => exact ih hnumber

/-- A field is closed somewhere. -/
theorem close_mem (h : Reads value numbering place text r) (hplace : place.IsField) :
    '\x7d' ∈ text := by
  induction h with
  | done => cases hplace
  | copied => cases hplace
  | doubled => cases hplace
  | opened => cases hplace
  | inside _ _ hnext _ ih => exact List.mem_cons_of_mem _ (ih hnext)
  | empty => exact List.mem_cons_self ..
  | closed => exact List.mem_cons_self ..

/-- Behind an opening brace in a field, the next character does not close the field. -/
theorem close_mem_of_not_closes {rest : List Char}
    (h : Reads value numbering place ('\x7d' :: rest) r) (hplace : place.IsField)
    (hopen : ¬place.Closes) : '\x7d' ∈ rest := by
  cases h with
  | copied => cases hplace
  | doubled => cases hplace
  | inside tail _ hnext _ => exact tail.close_mem hnext
  | empty => exact absurd rfl hopen
  | closed _ _ hcloses => exact absurd hcloses hopen

/-- Text without braces is copied. -/
theorem eq_of_plain (h : Reads value numbering .text text r) (hopen : '\x7b' ∉ text)
    (hclose : '\x7d' ∉ text) : r.1 = text := by
  generalize hplace : Place.text = place at h
  induction h with
  | done => rfl
  | copied _ _ _ ih =>
    rw [List.mem_cons, not_or] at hopen hclose
    rw [ih hopen.2 hclose.2 hplace]
  | doubled hbrace =>
    rcases hbrace with rfl | rfl
    · exact absurd (List.mem_cons_self ..) hopen
    · exact absurd (List.mem_cons_self ..) hclose
  | opened => exact absurd (List.mem_cons_self ..) hopen
  | inside _ hfield =>
    subst hplace
    cases hfield
  | empty => cases hplace
  | closed => exact absurd (List.mem_cons_self ..) hclose

section

variable {after : List Char} (hopen : '\x7b' ∉ after) (hclose : '\x7d' ∉ after)
include hopen hclose

/-- The rest of a template from the empty field on. -/
theorem at_hole (h : Reads value numbering place ('\x7b' :: '\x7d' :: after) r) :
    place = .text ∧ numbering.isDecided = false ∧ r.1 = value ++ after := by
  cases h with
  | copied hc => exact absurd rfl hc
  | opened tail =>
    cases tail with
    | inside tail _ hnext => exact absurd (tail.close_mem hnext) hclose
    | empty hnumber tail =>
      refine ⟨rfl, hnumber, ?_⟩
      rw [tail.eq_of_plain hopen hclose]
    | closed _ _ _ hname => exact absurd rfl hname
  | inside tail _ hnext hcloses =>
    exact absurd (tail.close_mem_of_not_closes hnext (hcloses rfl)) hclose

/-- No text goes on with a closing brace that stands alone. -/
theorem not_lone_close : ¬Reads value numbering .text ('\x7d' :: after) r := by
  intro h
  cases h with
  | copied _ hc => exact absurd rfl hc
  | doubled => exact absurd (List.mem_cons_self ..) hclose
  | inside _ hfield => cases hfield
  | closed _ hfield => cases hfield

/-- The reader of a template that ends in an empty field has read no field before. -/
theorem through_hole {before : List Char}
    (h : Reads value numbering place (before ++ '\x7b' :: '\x7d' :: after) r) :
    place = .text ∧ numbering.isDecided = false ∧
      ∃ front, front.Sublist before ∧
        (∀ plain, isPlain plain = true → plain <+: before → plain <+: front) ∧
        r.1 = front ++ value ++ after := by
  generalize htext : before ++ '\x7b' :: '\x7d' :: after = text at h
  induction h generalizing before with
  | done => simp at htext
  | @copied numbering c rest r hc hc' tail ih =>
    rcases before with - | ⟨c, before⟩ <;> cases htext
    · exact absurd rfl hc
    · obtain ⟨-, hnumber, front, hfront, hbegin, hr⟩ := ih rfl
      refine ⟨rfl, hnumber, c :: front, hfront.cons_cons c, ?_, ?_⟩
      · intro plain hplain hprefix
        cases plain with
        | nil => exact List.nil_prefix
        | cons d plain =>
          obtain ⟨rfl, hrest⟩ := List.cons_prefix_cons.1 hprefix
          have hparts : isPlain ([d] ++ plain) = true := hplain
          exact List.cons_prefix_cons.2 ⟨rfl, hbegin plain (isPlain_append.1 hparts).2 hrest⟩
      · rw [hr]
        rfl
  | @doubled numbering c rest r hbrace tail ih =>
    rcases before with - | ⟨c, - | ⟨c, before⟩⟩ <;> cases htext
    · exact absurd tail (not_lone_close hopen hclose)
    · obtain ⟨-, hnumber, front, hfront, -, hr⟩ := ih rfl
      refine ⟨rfl, hnumber, c :: front, (hfront.cons_cons c).cons c, ?_, ?_⟩
      · intro plain hplain hprefix
        cases plain with
        | nil => exact List.nil_prefix
        | cons d plain =>
          obtain ⟨rfl, -⟩ := List.cons_prefix_cons.1 hprefix
          rcases hbrace with rfl | rfl <;> simp [isPlain] at hplain
      · rw [hr]
        rfl
  | opened tail ih =>
    rcases before with - | ⟨c, before⟩ <;> cases htext
    · obtain ⟨hplace, hnumber, hr⟩ := at_hole hopen hclose (.opened tail)
      exact ⟨hplace, hnumber, [], List.nil_sublist _, fun _ _ h => h, hr⟩
    · cases (ih rfl).1
  | inside tail hfield hnext hcloses ih =>
    rcases before with - | ⟨c, before⟩ <;> cases htext
    · obtain ⟨rfl, -⟩ := at_hole hopen hclose (.inside tail hfield hnext hcloses)
      cases hfield
    · obtain ⟨rfl, -⟩ := ih rfl
      cases hnext
  | empty _ _ ih =>
    rcases before with - | ⟨c, before⟩ <;> cases htext
    cases (ih rfl).2.1
  | closed _ _ _ _ hnumber _ ih =>
    rcases before with - | ⟨c, before⟩ <;> cases htext
    rw [(ih rfl).2.1] at hnumber
    cases hnumber

end

end Reads

/-! ## Filling -/

theorem keepsDecided_fillLayout (value : List Char) : KeepsDecided (fillLayout value) := by
  intro numbering layout r hdecided h
  unfold fillLayout at h
  split at h
  · have hinner : KeepsDecided fun numbering inner =>
        if inner.contains '\x7b' then .error .nestedLayout else .ok (inner, numbering) := by
      intro numbering inner r hdecided h
      dsimp only at h
      split at h
      · cases h
      · cases h
        exact hdecided
    exact (reads_of_fillFrom hinner (.inl rfl) h).isDecided hdecided
  · cases h
    exact hdecided

/-- A template that ends in an empty field is filled with the value there, behind characters of the
template, of which those before the first brace are all kept. -/
theorem fill_trailing_hole {before after value text : String} (hopen : '\x7b' ∉ after.toList)
    (hclose : '\x7d' ∉ after.toList) (h : fill (before ++ "\x7b\x7d" ++ after) value = .ok text) :
    ∃ front, front.Sublist before.toList ∧
      (∀ plain, isPlain plain = true → plain <+: before.toList → plain <+: front) ∧
      text = String.ofList front ++ value ++ after := by
  unfold fill at h
  have htext : (before ++ "\x7b\x7d" ++ after).toList =
      before.toList ++ '\x7b' :: '\x7d' :: after.toList := by simp
  rw [htext] at h
  cases hr : fillFrom (fillLayout value.toList) value.toList .undecided .text
      (before.toList ++ '\x7b' :: '\x7d' :: after.toList) with
  | error fault =>
    rw [hr] at h
    cases h
  | ok r =>
    rw [hr] at h
    cases h
    have hreads := reads_of_fillFrom (keepsDecided_fillLayout value.toList) (.inl rfl) hr
    obtain ⟨-, -, front, hfront, hbegin, hr⟩ := hreads.through_hole hopen hclose
    refine ⟨front, hfront, hbegin, ?_⟩
    dsimp only
    rw [hr]
    simp [String.append_assoc]

end Protogen.Template
