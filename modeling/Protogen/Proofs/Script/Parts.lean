import Protogen.Proofs.Script.Reader
import Protogen.Proofs.Text.Cut

/-!
# Reading back the parts of lines

The parts that lines are put together from are read as what was written.

* `isWellFormed` asks that the names which the parts consist of are identifiers; names of types,
  URLs and accessors may be any texts.
* `readAccess_text`, `readTest_text`, `readConversion_text` and `readArguments_text` read the
  parts back.
* `of_readAccess` says that nothing else is read as an access, by which `cutOperand` finds the
  operand of a conversion.
-/

set_option autoImplicit false

namespace Protogen.Script

open Text Code

/-! ## Identifiers -/

theorem isIdentifierChar_of_mem {name : List Char} (h : isIdentifier name = true) {c : Char}
    (hc : c ∈ name) : isIdentifierChar c = true := by
  simp only [isIdentifier, Bool.and_eq_true, List.all_eq_true] at h
  exact h.1.1 c hc

theorem not_mem_of_isIdentifier {name : List Char} (h : isIdentifier name = true) {c : Char}
    (hc : isIdentifierChar c = false) : c ∉ name := by
  intro hmem
  rw [isIdentifierChar_of_mem h hmem] at hc
  cases hc

theorem ne_nil_of_isIdentifier {name : List Char} (h : isIdentifier name = true) : name ≠ [] := by
  rintro rfl
  simp [isIdentifier] at h

/-- No blanks stand in front of a character of an identifier. -/
theorem dropWhile_blank {text : List Char} (h : ∀ c ∈ text.head?, isIdentifierChar c = true) :
    text.dropWhile (· == ' ') = text := by
  cases text with
  | nil => rfl
  | cons c text =>
    have hc : isIdentifierChar c = true := h c rfl
    have hne : (c == ' ') = false := by
      rw [beq_eq_false_iff_ne]
      rintro rfl
      exact absurd hc (by decide)
    simp [hne]

/-- An identifier ends where another character follows. -/
theorem takeIdentifier_append {name : List Char} (rest : List Char) (h : isIdentifier name = true)
    (hrest : ∀ c ∈ rest.head?, isIdentifierChar c = false) :
    takeIdentifier (name ++ rest) = some (name, rest) := by
  have hall : ∀ c ∈ name, isIdentifierChar c = true := fun c => isIdentifierChar_of_mem h
  have htake : (name ++ rest).takeWhile isIdentifierChar = name := by
    rw [List.takeWhile_append_of_pos hall]
    cases rest with
    | nil => simp
    | cons c rest => simp [hrest c rfl]
  have hdrop : (name ++ rest).dropWhile isIdentifierChar = rest := by
    rw [List.dropWhile_append_of_pos hall]
    cases rest with
    | nil => simp
    | cons c rest => simp [hrest c rfl]
  simp [takeIdentifier, htake, hdrop, h]

theorem takeIdentifier_self {name : List Char} (h : isIdentifier name = true) :
    takeIdentifier name = some (name, []) := by
  simpa using takeIdentifier_append [] h (by simp)

theorem of_takeIdentifier {text name rest : List Char}
    (h : takeIdentifier text = some (name, rest)) :
    isIdentifier name = true ∧ text = name ++ rest := by
  simp only [takeIdentifier] at h
  split at h
  · rename_i hname
    cases h
    exact ⟨hname, (List.takeWhile_append_dropWhile).symm⟩
  · cases h

theorem readName_toList {name : String} (h : isIdentifier name.toList = true) :
    readName name.toList = some name := by
  simp [readName, h]

/-! ## Accesses -/

/-- Whether the names of an access are identifiers. -/
def Access.isWellFormed : Access → Bool
  | .var name => isIdentifier name.toList
  | .property object key => isIdentifier object.toList && isIdentifier key.toList
  | .entry object key => isIdentifier object.toList && isIdentifier key.toList

theorem readAccess_text {a : Access} (h : a.isWellFormed = true) :
    readAccess a.text.toList = some a := by
  have hdot : isIdentifierChar '.' = false := by decide
  have hopen : isIdentifierChar '[' = false := by decide
  have hentry : entryText.toList = '[' :: (FieldToParse.propertyName.toList ++ [']']) := by
    simp [entryText]
  cases a with
  | var name =>
    simp only [Access.isWellFormed] at h
    simp [readAccess, Access.text, takeIdentifier_self h]
  | property object key =>
    simp only [Access.isWellFormed, Bool.and_eq_true] at h
    have hobject := takeIdentifier_append ('.' :: key.toList) h.1 (by simp [hdot])
    simp [readAccess, Access.text, hobject, takeIdentifier_self h.2]
  | entry object key =>
    simp only [Access.isWellFormed, Bool.and_eq_true] at h
    have hobject := takeIdentifier_append ('.' :: (key.toList ++ entryText.toList)) h.1
      (by simp [hdot])
    have hkey := takeIdentifier_append entryText.toList h.2 (by simp [hentry, hopen])
    simp [readAccess, Access.text, hobject, hkey]
    simp [hentry]

/-- Only what an access is written as is read as that access. -/
theorem of_readAccess {text : List Char} {a : Access} (h : readAccess text = some a) :
    a.isWellFormed = true ∧ text = a.text.toList := by
  obtain ⟨⟨object, rest⟩, hobject, hrest⟩ := Option.bind_eq_some_iff.1 h
  obtain ⟨hwf, rfl⟩ := of_takeIdentifier hobject
  dsimp only at hrest
  split at hrest
  · cases hrest
    simp [Access.isWellFormed, Access.text, hwf]
  · obtain ⟨⟨key, after⟩, hkey, hafter⟩ := Option.bind_eq_some_iff.1 hrest
    obtain ⟨hkeywf, rfl⟩ := of_takeIdentifier hkey
    dsimp only at hafter
    split at hafter
    · cases hafter
      simp [Access.isWellFormed, Access.text, hwf, hkeywf]
    · split at hafter
      · rename_i hentry
        cases hafter
        simp [Access.isWellFormed, Access.text, hwf, hkeywf, hentry]
      · cases hafter
  · cases hrest

/-- An access has no characters but those of identifiers, dots and square brackets. -/
theorem Access.not_mem_text {a : Access} (h : a.isWellFormed = true) {c : Char}
    (hc : isIdentifierChar c = false) (hdot : c ≠ '.') (hopen : c ≠ '[') (hclose : c ≠ ']') :
    c ∉ a.text.toList := by
  have hname : c ∉ FieldToParse.propertyName.toList :=
    not_mem_of_isIdentifier (by decide) hc
  cases a with
  | var name =>
    simp only [Access.isWellFormed] at h
    exact not_mem_of_isIdentifier h hc
  | property object key =>
    simp only [Access.isWellFormed, Bool.and_eq_true] at h
    simp [Access.text, hdot, not_mem_of_isIdentifier h.1 hc, not_mem_of_isIdentifier h.2 hc]
  | entry object key =>
    simp only [Access.isWellFormed, Bool.and_eq_true] at h
    simp [Access.text, entryText, hdot, hopen, hclose, hname, not_mem_of_isIdentifier h.1 hc,
      not_mem_of_isIdentifier h.2 hc]

/-- Nothing that has a round bracket or another such character in it is an access. -/
theorem readAccess_eq_none {text : List Char} {c : Char} (hmem : c ∈ text)
    (hc : isIdentifierChar c = false) (hdot : c ≠ '.') (hopen : c ≠ '[') (hclose : c ≠ ']') :
    readAccess text = none := by
  cases h : readAccess text with
  | none => rfl
  | some a =>
    obtain ⟨hwf, rfl⟩ := of_readAccess h
    exact absurd hmem (Access.not_mem_text hwf hc hdot hopen hclose)

/-- Square brackets stand in an access only around the property that is being visited. -/
theorem Access.after_bracket {a : Access} (h : a.isWellFormed = true) {before after : List Char}
    (heq : a.text.toList = before ++ '[' :: after) :
    after = FieldToParse.propertyName.toList ++ [']'] := by
  have hopen : isIdentifierChar '[' = false := by decide
  have hmem : '[' ∈ a.text.toList := by simp [heq]
  cases a with
  | var name => exact absurd hmem (not_mem_of_isIdentifier h hopen)
  | property object key =>
    simp only [Access.isWellFormed, Bool.and_eq_true] at h
    have hobject := not_mem_of_isIdentifier h.1 hopen
    have hkey := not_mem_of_isIdentifier h.2 hopen
    simp [Access.text, hobject, hkey] at hmem
  | entry object key =>
    simp only [Access.isWellFormed, Bool.and_eq_true] at h
    have hobject := not_mem_of_isIdentifier h.1 hopen
    have hkey := not_mem_of_isIdentifier h.2 hopen
    have hbefore : '[' ∉ object.toList ++ '.' :: key.toList := by simp [hobject, hkey]
    have hname : '[' ∉ FieldToParse.propertyName.toList ++ [']'] := by decide
    have htext : (Access.entry object key).text.toList = (object.toList ++ '.' :: key.toList) ++
        '[' :: (FieldToParse.propertyName.toList ++ [']']) := by
      simp [Access.text, entryText]
    rw [htext] at heq
    exact ((List.append_cons_inj_of_notMem hbefore hname).1 heq).2.2.symm

/-! ## Tests -/

/-- Whether the names of a comparison are identifiers. -/
def Comparison.isWellFormed : Comparison → Bool
  | .isNull value => value.isWellFormed
  | .isDefined value => value.isWellFormed
  | .isNotNull value => value.isWellFormed
  | .owns object => object.isWellFormed

/-- Whether the names of a test are identifiers. -/
def Test.isWellFormed : Test → Bool
  | .one comparison => comparison.isWellFormed
  | .both first second => first.isWellFormed && second.isWellFormed

/-- A comparison of a value does not begin like a look at the properties of an object. -/
theorem dropStart?_owns (rest : List Char) {a : Access} (h : a.isWellFormed = true)
    (hrest : '(' ∉ rest) : dropStart? ownsText.toList (a.text.toList ++ rest) = none := by
  have ha : '(' ∉ a.text.toList :=
    Access.not_mem_text h (by decide) (by decide) (by decide) (by decide)
  have hmem : '(' ∈ ownsText.toList := by simp [ownsText]
  refine dropStart?_eq_none_of_not_mem hmem ?_
  simp [ha, hrest]

theorem readComparison_text {c : Comparison} (h : c.isWellFormed = true) :
    readComparison c.text.toList = some c := by
  cases c with
  | isNull value =>
    have howns := dropStart?_owns isNullText.toList h (by simp [isNullText])
    simp [readComparison, Comparison.text, howns, readAccess_text h]
  | isDefined value =>
    have howns := dropStart?_owns isDefinedText.toList h (by simp [isDefinedText])
    have hnull : dropEnd? isNullText.toList (value.text.toList ++ isDefinedText.toList) = none :=
      dropEnd?_of_getLast?_ne (by simp [isNullText]) (by simp [isNullText, isDefinedText])
    simp [readComparison, Comparison.text, howns, hnull, readAccess_text h]
  | isNotNull value =>
    have howns := dropStart?_owns isNotNullText.toList h (by simp [isNotNullText])
    have hnull : dropEnd? isNullText.toList (value.text.toList ++ isNotNullText.toList) = none :=
      dropEnd?_append_of_ne (by simp [isNullText, isNotNullText])
        (by simp [isNullText, isNotNullText])
    have hdefined :
        dropEnd? isDefinedText.toList (value.text.toList ++ isNotNullText.toList) = none :=
      dropEnd?_of_getLast?_ne (by simp [isDefinedText]) (by simp [isNotNullText, isDefinedText])
    simp [readComparison, Comparison.text, howns, hnull, hdefined, readAccess_text h]
  | owns object =>
    simp [readComparison, Comparison.text, readAccess_text h]

/-- A comparison has no ampersand. -/
theorem Comparison.not_mem_text {c : Comparison} (h : c.isWellFormed = true) :
    '&' ∉ c.text.toList := by
  have haccess : ∀ {a : Access}, a.isWellFormed = true → '&' ∉ a.text.toList :=
    fun ha => Access.not_mem_text ha (by decide) (by decide) (by decide) (by decide)
  cases c with
  | isNull value => simp [Comparison.text, isNullText, haccess h]
  | isDefined value => simp [Comparison.text, isDefinedText, haccess h]
  | isNotNull value => simp [Comparison.text, isNotNullText, haccess h]
  | owns object =>
    simp [Comparison.text, ownsText, ownsEnd, FieldToParse.propertyName, haccess h]

theorem readTest_text {t : Test} (h : t.isWellFormed = true) : readTest t.text.toList = some t := by
  have hmem : '&' ∈ bothText.toList := by simp [bothText]
  cases t with
  | one comparison =>
    simp only [Test.isWellFormed] at h
    have hcut : cut? bothText.toList comparison.text.toList = none :=
      cut?_eq_none hmem (Comparison.not_mem_text h)
    simp [readTest, Test.text, hcut, readComparison_text h]
  | both first second =>
    simp only [Test.isWellFormed, Bool.and_eq_true] at h
    have hcut : cut? bothText.toList
        (first.text.toList ++ bothText.toList ++ second.text.toList) =
          some (first.text.toList, second.text.toList) :=
      cut?_append second.text.toList hmem (Comparison.not_mem_text h.1)
    rw [List.append_assoc] at hcut
    simp [readTest, Test.text, hcut, readComparison_text h.1, readComparison_text h.2]

/-! ## Conversions -/

/-- Whether an expression can be told from others: an entry of an object is not the member of an
enum that is named like the property that is being visited. -/
def Conversion.isWellFormed : Conversion → Access → Bool
  | .member _, raw => raw.isWellFormed && raw != .var FieldToParse.propertyName
  | _, raw => raw.isWellFormed

/-- The operand begins behind the first bracket from which the rest is an access. -/
theorem cutOperand_append {bracket : Char} {raw : Access} (h : raw.isWellFormed = true)
    {name : List Char}
    (hname : ∀ inner outer, name = outer ++ bracket :: inner →
      readAccess (inner ++ bracket :: raw.text.toList) = none) :
    cutOperand bracket (name ++ bracket :: raw.text.toList) = some (name, raw) := by
  induction name with
  | nil => simp [cutOperand, readAccess_text h]
  | cons c name ih =>
    have hrest := ih fun inner outer heq => hname inner (c :: outer) (by simp [heq])
    have hhead : (if c = bracket then readAccess (name ++ bracket :: raw.text.toList) else none)
        = none := by
      split
      · rename_i hc
        exact hname name [] (by simp [hc])
      · rfl
    rw [List.cons_append, cutOperand, hhead, hrest]
    rfl

/-- Behind a round bracket stands the whole operand. -/
theorem cutOperand_round {raw : Access} (h : raw.isWellFormed = true) (name : List Char) :
    cutOperand '(' (name ++ '(' :: raw.text.toList) = some (name, raw) :=
  cutOperand_append h fun inner outer _ =>
    readAccess_eq_none (c := '(') (by simp) (by decide) (by decide) (by decide) (by decide)

/-- Behind a square bracket, too. -/
theorem cutOperand_square {raw : Access} (h : raw.isWellFormed = true) (typeName : List Char) :
    cutOperand '[' (typeName ++ '[' :: raw.text.toList) = some (typeName, raw) := by
  refine cutOperand_append h fun inner outer _ => ?_
  cases ha : readAccess (inner ++ '[' :: raw.text.toList) with
  | none => rfl
  | some a =>
    obtain ⟨hwf, htext⟩ := of_readAccess ha
    have hraw := Access.after_bracket hwf htext.symm
    -- an access that closes with a bracket opens one, too
    have hread := readAccess_text h
    rw [hraw] at hread
    have hnone : readAccess (FieldToParse.propertyName.toList ++ [']']) = none := by decide
    rw [hnone] at hread
    cases hread

/-- The member of an enum is no entry of an object. -/
theorem readAccess_member {raw : Access} (h : raw.isWellFormed = true)
    (hraw : raw ≠ .var FieldToParse.propertyName) (typeName : List Char) :
    readAccess (typeName ++ '[' :: (raw.text.toList ++ [']'])) = none := by
  cases ha : readAccess (typeName ++ '[' :: (raw.text.toList ++ [']'])) with
  | none => rfl
  | some a =>
    obtain ⟨hwf, htext⟩ := of_readAccess ha
    have hname := List.append_cancel_right (Access.after_bracket hwf htext.symm)
    have hread := readAccess_text h
    have hvar : readAccess FieldToParse.propertyName.toList =
        some (.var FieldToParse.propertyName) := by decide
    rw [hname, hvar] at hread
    exact absurd (Option.some.inj hread).symm hraw

theorem readFunction_parsed (url : String) :
    readFunction (parserStart ++ url ++ parserEnd).toList = some (.parsed url) := by
  have hlong : ∀ name : String, name.length < parserStart.length →
      (parserStart ++ url ++ parserEnd).toList ≠ name.toList := by
    intro name hlen heq
    have hlength := congrArg List.length heq
    simp only [String.toList_append, List.length_append, String.length_toList] at hlength
    omega
  have hinteger := hlong integerFunction (by decide)
  have hdecimal := hlong decimalFunction (by decide)
  rw [readFunction, if_neg hinteger, if_neg hdecimal]
  simp

/-- A call with an access is no comparison with the text `true`. -/
theorem dropEnd?_truth {raw : Access} (h : raw.isWellFormed = true) (name : List Char) :
    dropEnd? truthText.toList (name ++ '(' :: (raw.text.toList ++ [')'])) = none := by
  have hquote : '\'' ∉ raw.text.toList :=
    Access.not_mem_text h (by decide) (by decide) (by decide) (by decide)
  have htruth : truthText.toList = " === 'true'".toList ++ [')'] := by decide
  have htext : name ++ '(' :: (raw.text.toList ++ [')']) = (name ++ '(' :: raw.text.toList) ++ [')']
      := by simp
  rw [htruth, htext, dropEnd?_concat]
  refine dropEnd?_of_getLast?_ne (by simp) fun heq => ?_
  have hlast : (name ++ '(' :: raw.text.toList).getLast? = some '\'' := by
    rw [heq]
    decide
  rw [List.getLast?_append_of_ne_nil _ (List.cons_ne_nil _ _)] at hlast
  have hmem := List.mem_of_getLast? hlast
  simp [hquote] at hmem

/-- A call of a function with an access. -/
theorem readConversion_call (name : List Char) {c : Conversion} {raw : Access}
    (h : raw.isWellFormed = true) (hname : readFunction name = some c) :
    readConversion (name ++ '(' :: (raw.text.toList ++ [')'])) = some (c, raw) := by
  have hread : readAccess (name ++ '(' :: (raw.text.toList ++ [')'])) = none :=
    readAccess_eq_none (c := '(') (by simp) (by decide) (by decide) (by decide) (by decide)
  have hclose : dropEnd? [')'] (name ++ '(' :: (raw.text.toList ++ [')'])) =
      some (name ++ '(' :: raw.text.toList) := by
    rw [dropEnd?_eq_some_iff]
    simp
  simp [readConversion, hread, dropEnd?_truth h, hclose, cutOperand_round h, hname]

theorem readConversion_text {c : Conversion} {raw : Access} (h : c.isWellFormed raw = true) :
    readConversion (c.text raw.text).toList = some (c, raw) := by
  cases c with
  | plain =>
    simp only [Conversion.isWellFormed] at h
    simp [readConversion, Conversion.text, readAccess_text h]
  | integer =>
    simp only [Conversion.isWellFormed] at h
    have hread := readConversion_call (c := .integer) integerFunction.toList h
      (by simp [readFunction])
    simpa [Conversion.text] using hread
  | decimal =>
    simp only [Conversion.isWellFormed] at h
    have hread := readConversion_call (c := .decimal) decimalFunction.toList h
      (by decide)
    simpa [Conversion.text] using hread
  | truth =>
    simp only [Conversion.isWellFormed] at h
    have hread : readAccess ('(' :: (raw.text.toList ++ truthText.toList)) = none :=
      readAccess_eq_none (c := '(') (by simp) (by decide) (by decide) (by decide) (by decide)
    have hend := dropEnd?_append ('(' :: raw.text.toList) truthText.toList
    have hstart := dropStart?_append ['('] raw.text.toList
    simp only [List.cons_append, List.nil_append] at hend hstart
    simp [readConversion, Conversion.text, hread, hend, hstart, readAccess_text h]
  | member typeName =>
    simp only [Conversion.isWellFormed, Bool.and_eq_true, bne_iff_ne] at h
    have hread := readAccess_member h.1 h.2 typeName.toList
    have htext : typeName.toList ++ '[' :: (raw.text.toList ++ [']']) =
        (typeName.toList ++ '[' :: raw.text.toList) ++ [']'] := by simp
    have hlast : ((typeName.toList ++ '[' :: raw.text.toList) ++ [']']).getLast? = some ']' :=
      List.getLast?_concat
    have htruth : dropEnd? truthText.toList
        ((typeName.toList ++ '[' :: raw.text.toList) ++ [']']) = none :=
      dropEnd?_of_getLast?_ne (by simp [truthText]) (by rw [hlast]; decide)
    have hround : dropEnd? [')'] ((typeName.toList ++ '[' :: raw.text.toList) ++ [']']) = none :=
      dropEnd?_of_getLast?_ne (by simp) (by rw [hlast]; decide)
    have hsquare := dropEnd?_append (typeName.toList ++ '[' :: raw.text.toList) [']']
    have hwhole : ((Conversion.member typeName).text raw.text).toList =
        (typeName.toList ++ '[' :: raw.text.toList) ++ [']'] := by simp [Conversion.text]
    rw [htext] at hread
    rw [hwhole, readConversion, hread]
    simp only [htruth, hround, hsquare]
    simp [cutOperand_square h.1]
  | parsed url =>
    simp only [Conversion.isWellFormed] at h
    have hread := readConversion_call _ h (readFunction_parsed url)
    simpa [Conversion.text] using hread

/-- A conversion does not close like the construction of a message. -/
theorem dropEnd?_newEnd {c : Conversion} {raw : Access} (h : c.isWellFormed raw = true) :
    dropEnd? newEnd.toList (c.text raw.text).toList = none := by
  have hraw : raw.isWellFormed = true := by
    cases c <;> simp_all [Conversion.isWellFormed]
  have hround : '(' ∉ raw.text.toList :=
    Access.not_mem_text hraw (by decide) (by decide) (by decide) (by decide)
  have hne : raw.text.toList ≠ [] := by
    intro hnil
    have hread := readAccess_text hraw
    rw [hnil] at hread
    cases hread
  have hend : newEnd.toList = ['('] ++ [')'] := by decide
  -- behind a call stands the last character of an access, which is no opening bracket
  have hcall : ∀ name : List Char,
      dropEnd? newEnd.toList (name ++ '(' :: (raw.text.toList ++ [')'])) = none := by
    intro name
    have htext : name ++ '(' :: (raw.text.toList ++ [')']) =
        (name ++ ['('] ++ raw.text.toList) ++ [')'] := by simp
    rw [htext, hend, dropEnd?_concat]
    refine dropEnd?_of_getLast?_ne (by simp) fun heq => ?_
    rw [List.getLast?_append_of_ne_nil _ hne] at heq
    exact hround (List.mem_of_getLast? heq)
  cases c with
  | plain =>
    have hclose : ')' ∉ raw.text.toList :=
      Access.not_mem_text hraw (by decide) (by decide) (by decide) (by decide)
    refine dropEnd?_of_getLast?_ne (by simp [newEnd]) fun heq => ?_
    exact hclose (List.mem_of_getLast? (heq.trans (by decide)))
  | integer => simpa [Conversion.text] using hcall integerFunction.toList
  | decimal => simpa [Conversion.text] using hcall decimalFunction.toList
  | truth =>
    have htruth : truthText.toList = " === 'true'".toList ++ [')'] := by decide
    have htext : (Conversion.truth.text raw.text).toList =
        ('(' :: raw.text.toList ++ " === 'true'".toList) ++ [')'] := by
      simp [Conversion.text, htruth]
    rw [htext, hend, dropEnd?_concat]
    refine dropEnd?_of_getLast?_ne (by simp) ?_
    rw [List.getLast?_append_of_ne_nil _ (by decide)]
    decide
  | member typeName =>
    have htext : ((Conversion.member typeName).text raw.text).toList =
        (typeName.toList ++ '[' :: raw.text.toList) ++ [']'] := by simp [Conversion.text]
    refine dropEnd?_of_getLast?_ne (by simp [newEnd]) ?_
    rw [htext, List.getLast?_concat]
    decide
  | parsed url => simpa [Conversion.text] using hcall (parserStart ++ url ++ parserEnd).toList

/-! ## Arguments -/

/-- Whether a variable has a name of its own. -/
def Operand.isWellFormed : Operand → Bool
  | .null => true
  | .var name => isIdentifier name.toList && name != "null"

theorem readOperand_text {o : Operand} (h : o.isWellFormed = true) :
    readOperand o.text.toList = some o := by
  cases o with
  | null => simp [readOperand, Operand.text]
  | var name =>
    simp only [Operand.isWellFormed, Bool.and_eq_true, bne_iff_ne] at h
    have hnull : name.toList ≠ ['n', 'u', 'l', 'l'] := by
      intro heq
      exact h.2 (String.toList_inj.1 (heq.trans (by decide)))
    simp [readOperand, Operand.text, hnull, readName_toList h.1]

/-- An operand is an identifier. -/
theorem Operand.isIdentifier_text {o : Operand} (h : o.isWellFormed = true) :
    isIdentifier o.text.toList = true := by
  cases o with
  | null => decide
  | var name =>
    simp only [Operand.isWellFormed, Bool.and_eq_true] at h
    exact h.1

theorem not_mem_argumentsText {arguments : List Operand}
    (h : ∀ o ∈ arguments, o.isWellFormed = true) : '(' ∉ (argumentsText arguments).toList := by
  have hoperand : ∀ {o : Operand}, o.isWellFormed = true → '(' ∉ o.text.toList :=
    fun ho => not_mem_of_isIdentifier (Operand.isIdentifier_text ho) (by decide)
  induction arguments with
  | nil => simp [argumentsText]
  | cons o arguments ih =>
    have ho := hoperand (h o (List.mem_cons_self ..))
    have hrest := ih fun a ha => h a (List.mem_cons_of_mem _ ha)
    simp only [argumentsText] at hrest ⊢
    cases arguments with
    | nil => simpa using ho
    | cons o' arguments =>
      simp only [List.map_cons, String.intercalate_cons_cons, String.toList_append,
        List.mem_append, not_or] at hrest ⊢
      exact ⟨⟨ho, by decide⟩, hrest⟩

/-- The blank in front of an argument does not count. -/
theorem readArguments_blank (text : List Char) :
    readArguments (' ' :: text) = readArguments text := by
  have hsplit : (' ' :: text).splitOn ',' = (text.splitOn ',').modifyHead (' ' :: ·) := by
    rw [List.splitOn_cons_eq_if_modifyHead, if_neg (by decide)]
  simp only [readArguments, hsplit]
  cases text.splitOn ',' with
  | nil => rfl
  | cons first rest => simp

theorem readArguments_text {arguments : List Operand} (hne : arguments ≠ [])
    (h : ∀ o ∈ arguments, o.isWellFormed = true) :
    readArguments (argumentsText arguments).toList = some arguments := by
  induction arguments with
  | nil => exact absurd rfl hne
  | cons o arguments ih =>
    have ho := h o (List.mem_cons_self ..)
    have hname := Operand.isIdentifier_text ho
    have hcomma : ',' ∉ o.text.toList := not_mem_of_isIdentifier hname (by decide)
    have hread : readOperand (o.text.toList.dropWhile (· == ' ')) = some o := by
      rw [dropWhile_blank fun c hc => isIdentifierChar_of_mem hname (List.mem_of_mem_head? hc),
        readOperand_text ho]
    cases arguments with
    | nil =>
      simp only [argumentsText, readArguments, List.map_cons, List.map_nil,
        String.intercalate_singleton]
      rw [List.splitOn_eq_singleton hcomma]
      simp [hread]
    | cons o' arguments =>
      have hrest := ih (List.cons_ne_nil _ _) fun a ha => h a (List.mem_cons_of_mem _ ha)
      have htext : (argumentsText (o :: o' :: arguments)).toList =
          o.text.toList ++ ',' :: ' ' :: (argumentsText (o' :: arguments)).toList := by
        simp [argumentsText]
      rw [← readArguments_blank] at hrest
      rw [htext, readArguments, List.splitOn_append_cons_self_of_not_mem hcomma, List.mapM_cons,
        hread]
      simp only [readArguments] at hrest
      simp [hrest]

theorem cutLast_append (before : List Char) {bracket : Char} {after : List Char}
    (h : bracket ∉ after) :
    cutLast bracket (before ++ bracket :: after) = some (before, after) := by
  have hne : ∀ c ∈ after.reverse, (c != bracket) = true := by
    intro c hc
    rw [bne_iff_ne]
    rintro rfl
    exact h (List.mem_reverse.1 hc)
  have hreverse : (before ++ bracket :: after).reverse =
      after.reverse ++ bracket :: before.reverse := by simp
  simp [cutLast, hreverse, List.dropWhile_append_of_pos hne, List.takeWhile_append_of_pos hne]

end Protogen.Script
