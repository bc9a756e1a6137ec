import Protogen.Proofs.Field.Balance
import Protogen.Proofs.Naming
import Protogen.Proofs.Text.Cut
import Protogen.Proofs.Text.Occurrence

/-!
# References in the code of a field

A parser looks up other parsers by URL, and the members of enums by JavaScript type.

* `LooksUp` and `BindsMember` find the references in a text.
* `ReferenceLine` lists the lines of a parser by what they refer to; `ReferenceLine.hasUrl` and
  `ReferenceLine.hasType` read it off the text of a line.
* `FieldToParse.referenceLine_code` and `FieldToParse.referenceLine_header` are the lines of a field
  whose names can stand in the code as they are.
-/

set_option autoImplicit false

namespace Protogen

open Code

/-! ## Texts of one line without quotes -/

namespace Text

/-- Whether a text has neither quotes nor line feeds. -/
def IsInline (text : String) : Prop := '\'' ∉ text.toList ∧ '\n' ∉ text.toList

instance (text : String) : Decidable (IsInline text) := inferInstanceAs (Decidable (_ ∧ _))

@[simp] theorem isInline_append {a b : String} : IsInline (a ++ b) ↔ IsInline a ∧ IsInline b := by
  simp only [IsInline, String.toList_append, List.mem_append, not_or]
  exact and_and_and_comm

/-- A text has no quotes and line feeds if it has no more of them than another one. -/
theorem IsInline.of_subset {a b : String} (h : IsInline b)
    (hsubset : ∀ c ∈ uncased, c ∈ a.toList → c ∈ b.toList) : IsInline a :=
  ⟨fun hmem => h.1 (hsubset _ (by decide) hmem), fun hmem => h.2 (hsubset _ (by decide) hmem)⟩

end Text

open Text

theorem Naming.isInline_camelCase {name : String} (h : IsInline name) :
    IsInline (camelCase name) := by
  refine h.of_subset fun c hc hmem => ?_
  rw [camelCase, String.toList_ofList] at hmem
  exact mem_camelChars hc hmem

theorem Naming.isInline_pascalCase {name : String} (h : IsInline name) :
    IsInline (pascalCase name) :=
  h.of_subset fun _ hc hmem => mem_pascalCase hc hmem

/-! ## References in a text -/

/-- The beginning of the statement that binds a value. -/
def binding : String := "let " ++ valueVariable ++ " = "

/-- The text looks up the parser for a URL. -/
def LooksUp (text url : String) : Prop :=
  IsInline url ∧ ("parserFor('" ++ url ++ "')").toList <:+: text.toList

/-- A line of the text binds a member of a generated type to the variable of a value. -/
def BindsMember (text jsType : String) : Prop :=
  "proto.".toList <+: jsType.toList ∧ '[' ∉ jsType.toList ∧
    ∃ line ∈ split '\n' text, (binding ++ jsType ++ "[").toList <+: (dropLeading ' ' line).toList

instance (text url : String) : Decidable (LooksUp text url) :=
  inferInstanceAs (Decidable (_ ∧ _))

instance (text jsType : String) : Decidable (BindsMember text jsType) :=
  inferInstanceAs (Decidable (_ ∧ _ ∧ _))

/-- What is looked up in one of the lines of a text is looked up in the text. -/
theorem LooksUp.intercalate {lines : List String} {line url : String} (h : LooksUp line url)
    (hline : line ∈ lines) : LooksUp (String.intercalate "\n" lines) url := by
  refine ⟨h.1, h.2.trans ?_⟩
  rw [String.toList_intercalate]
  exact infix_intercalate (List.mem_map_of_mem hline) _

/-- What a line of a text binds is bound in the text. -/
theorem BindsMember.intercalate {lines : List String} {line jsType : String}
    (h : BindsMember line jsType) (hline : line ∈ lines) :
    BindsMember (String.intercalate "\n" lines) jsType := by
  obtain ⟨hproto, hbracket, piece, hpiece, hbinds⟩ := h
  refine ⟨hproto, hbracket, piece, ?_, hbinds⟩
  obtain ⟨chars, hchars, rfl⟩ := List.mem_map.1 hpiece
  refine List.mem_map_of_mem ?_
  rw [String.toList_intercalate]
  exact mem_splitOn_intercalate (List.mem_map_of_mem hline) hchars

/-- The lines of a parser, by what they refer to. -/
inductive ReferenceLine (HasUrl HasType : String → Prop) : String → Prop
  | plain {text : String} (htext : IsInline text)
      (hbinds : ¬(binding ++ "proto.").toList <+: text.toList.dropWhile (· == ' ')) :
      ReferenceLine HasUrl HasType text
  /-- the only text in quotes other than a URL -/
  | key : ReferenceLine HasUrl HasType
      ("let " ++ mapKeyVariable ++ " = " ++ ("(" ++ FieldToParse.propertyName ++ " === 'true')") ++ ";")
  | lookup {url raw : String} (hurl : HasUrl url) (hinline : IsInline url) (hraw : IsInline raw) :
      ReferenceLine HasUrl HasType (binding ++ parseCall (parserLookup url) raw ++ ";")
  | member {jsType raw : String} (htype : HasType jsType) (hinline : IsInline jsType)
      (hbracket : '[' ∉ jsType.toList) (hraw : IsInline raw) :
      ReferenceLine HasUrl HasType (binding ++ (jsType ++ "[" ++ raw ++ "]") ++ ";")

namespace ReferenceLine

variable {HasUrl HasType : String → Prop} {text : String}

/-- The characters of a lookup. -/
theorem toList_lookup (url raw : String) :
    (binding ++ parseCall (parserLookup url) raw ++ ";").toList =
      "let value = TypeParsers.parserFor(".toList ++
        '\'' :: (url.toList ++ '\'' :: (").fromObject(".toList ++ raw.toList ++ ");".toList)) := by
  have hlookup : parserLookup url = "TypeParsers.parserFor('" ++ url ++ "')" := rfl
  simp [binding, valueVariable, parseCall, hlookup]

/-- The characters of a bound member. -/
theorem toList_member (jsType raw : String) :
    (binding ++ (jsType ++ "[" ++ raw ++ "]") ++ ";").toList =
      binding.toList ++ (jsType.toList ++ '[' :: (raw.toList ++ "];".toList)) := by
  simp

/-- A line that begins with another letter binds nothing. -/
theorem of_head {c : Char} (htext : IsInline text) (hhead : text.toList.head? = some c)
    (hc : c ≠ ' ' ∧ c ≠ 'l') : ReferenceLine HasUrl HasType text := by
  refine .plain htext ?_
  obtain ⟨rest, heq⟩ := List.head?_eq_some_iff.1 hhead
  have hblank : (c == ' ') = false := by simpa using hc.1
  rw [heq, List.dropWhile_cons, hblank]
  rintro ⟨behind, hbehind⟩
  have hfirst := congrArg List.head? hbehind
  simp [binding] at hfirst
  exact hc.2 hfirst.symm

theorem no_feed (h : ReferenceLine HasUrl HasType text) : '\n' ∉ text.toList := by
  cases h with
  | plain htext => exact htext.2
  | key => decide
  | lookup _ hinline hraw =>
    rw [toList_lookup]
    simp [hinline.2, hraw.2]
  | member _ hinline _ hraw =>
    rw [toList_member]
    simp [binding, valueVariable, hinline.2, hraw.2]

variable {depth : Nat}

/-- What is looked up in a line. -/
theorem hasUrl (h : ReferenceLine HasUrl HasType text) {url : String}
    (hlookup : ("parserFor('" ++ url ++ "')").toList <:+:
      (Writer.indented "  " ⟨depth, text⟩).toList) : HasUrl url := by
  obtain ⟨blanks, hblanks, hline⟩ := Writer.exists_toList_indented ⟨depth, text⟩
  have hquote : '\'' ∉ blanks := fun hmem => absurd (hblanks _ hmem) (by decide)
  have hword : ("parserFor('" ++ url ++ "')").toList =
      "parserFor(".toList ++ '\'' :: (url.toList ++ '\'' :: [')']) := by
    simp
  rw [hline, hword] at hlookup
  cases h with
  | plain htext =>
    have hmem : '\'' ∈ blanks ++ text.toList := hlookup.subset (by simp)
    rcases List.mem_append.1 hmem with hmem | hmem
    · exact absurd hmem hquote
    · exact absurd hmem htext.1
  | key =>
    have hsplit : blanks ++ ("let " ++ mapKeyVariable ++ " = " ++
        ("(" ++ FieldToParse.propertyName ++ " === 'true')") ++ ";").toList =
        (blanks ++ "let mapKey = (attribute === ".toList) ++
          '\'' :: ("true".toList ++ '\'' :: ");".toList) := by
      simp [mapKeyVariable, FieldToParse.propertyName]
    rw [hsplit] at hlookup
    obtain ⟨⟨before, hbefore⟩, -⟩ := eq_of_between (by simp [hquote]) (by decide) (by decide) hlookup
    have hlast := congrArg List.getLast? hbefore
    simp at hlast
  | @lookup found raw hfound hinline hraw =>
    rw [toList_lookup, ← List.append_assoc] at hlookup
    obtain ⟨-, heq⟩ := eq_of_between (by simp [hquote]) hinline.1 (by simp [hraw.1]) hlookup
    rw [String.toList_inj.1 heq]
    exact hfound
  | member _ hinline _ hraw =>
    rw [toList_member] at hlookup
    have hmem := hlookup.subset (show '\'' ∈ _ by simp)
    simp [binding, valueVariable, hquote, hinline.1, hraw.1] at hmem

/-- The type of the member that a line binds. -/
theorem hasType (h : ReferenceLine HasUrl HasType text) {jsType : String}
    (hproto : "proto.".toList <+: jsType.toList) (hbracket : '[' ∉ jsType.toList)
    (hbinds : (binding ++ jsType ++ "[").toList <+:
      (dropLeading ' ' (Writer.indented "  " ⟨depth, text⟩)).toList) : HasType jsType := by
  obtain ⟨rest, hrest⟩ := hbinds
  have hline : text.toList.dropWhile (· == ' ') =
      binding.toList ++ (jsType.toList ++ '[' :: rest) := by
    obtain ⟨blanks, hblanks, hline⟩ := Writer.exists_toList_indented ⟨depth, text⟩
    rw [dropLeading, String.toList_ofList, hline, List.dropWhile_append_of_pos] at hrest
    · simpa using hrest.symm
    · simpa using hblanks
  obtain ⟨tail, htail⟩ := hproto
  cases h with
  | plain _ hplain =>
    refine absurd ?_ hplain
    rw [hline, ← htail, String.toList_append, List.append_assoc, ← List.append_assoc]
    exact List.prefix_append _ _
  | key => simp [mapKeyVariable, binding, valueVariable] at hline
  | lookup =>
    rw [toList_lookup, ← htail] at hline
    simp [binding, valueVariable] at hline
  | @member found raw hfound _ hclean _ =>
    have hblank : ∀ after : List Char,
        (binding.toList ++ after).dropWhile (· == ' ') = binding.toList ++ after := by
      simp [binding, valueVariable]
    rw [toList_member, hblank, List.append_cancel_left_eq] at hline
    have hcut : ∀ {front : List Char} (behind : List Char), '[' ∉ front →
        cut? ['['] (front ++ '[' :: behind) = some (front, behind) := by
      intro front behind hfront
      have hfound := cut?_append behind (List.mem_singleton_self '[') hfront
      rwa [List.append_assoc] at hfound
    have hsame := hcut (raw.toList ++ "];".toList) hclean
    rw [hline, hcut _ hbracket, Option.some.injEq, Prod.mk.injEq] at hsame
    rw [String.toList_inj.1 hsame.1]
    exact hfound

end ReferenceLine

/-! ## The lines of a field -/

/-- A field whose names stand in the code as they are. -/
def Schema.Field.HasInlineNames (f : Field) : Prop :=
  IsInline (shownName f.name) ∧ IsInline (shownName f.jsonName)

namespace FieldToParse

variable {f : Schema.Field} (hf : f.HasInlineNames) {registry : Registry} {raw text : String}
  {HasUrl HasType : String → Prop}
include hf

theorem isInline_rawValue (hraw : rawValue { field := f } = .ok raw) :
    IsInline raw ∧ raw.toList.head? = some 'o' := by
  obtain ⟨key, hkey, rfl⟩ := map_eq_ok.1 hraw
  have hkey : IsInline key := by
    unfold Schema.Field.jsonKey at hkey
    split at hkey
    · cases hkey
      exact hf.2
    · split at hkey
      · rename_i name heq
        cases hkey
        have hname := hf.1
        rw [heq] at hname
        exact Naming.isInline_camelCase hname
      · cases hkey
  have hfront : IsInline ("obj" ++ ".") := by decide
  exact ⟨isInline_append.2 ⟨hfront, hkey⟩, by simp⟩

/-- What is converted for a field. -/
theorem isInline_raw (hraw : Raw { field := f } raw) :
    IsInline raw ∧ ∃ c, c ≠ 'p' ∧ raw.toList.head? = some c := by
  cases hraw with
  | value hvalue =>
    obtain ⟨hinline, hhead⟩ := isInline_rawValue hf hvalue
    exact ⟨hinline, 'o', by decide, hhead⟩
  | item => exact ⟨by decide, 'l', by decide, by decide⟩
  | @entry raw hvalue =>
    obtain ⟨⟨hquote, hfeed⟩, hhead⟩ := isInline_rawValue hf hvalue
    refine ⟨?_, 'o', by decide, ?_⟩
    · simp [IsInline, propertyName, hquote, hfeed]
    · simp [hhead]

theorem isInline_mergeCall {name : String} (hname : f.name = some name) (shape : Shape) :
    IsInline (mergeCall "msg" name shape) := by
  have hfield := hf.1
  rw [hname] at hfield
  obtain ⟨hquote, hfeed⟩ : IsInline (Naming.pascalCase name) := Naming.isInline_pascalCase hfield
  cases shape with
  | singular => simp [IsInline, mergeCall, Naming.setter, hquote, hfeed]
  | repeated => simp [IsInline, mergeCall, Naming.adder, hquote, hfeed]
  | map => simp [IsInline, mergeCall, Naming.mapGetter, mapKeyVariable, hquote, hfeed]

/-- The lines of a field, if those that convert its values are known. -/
theorem referenceLine_code
    (hvalue : ∀ kind raw expression, f.elementKind = .ok kind → Raw { field := f } raw →
      valueExpression kind raw registry = .ok expression →
        ReferenceLine HasUrl HasType (binding ++ expression ++ ";"))
    (h : CodeLine { field := f } registry text) : ReferenceLine HasUrl HasType text := by
  cases h with
  | value hraw hkind hexpression => exact hvalue _ _ _ hkind hraw hexpression
  | @key kind expression hexpression =>
    unfold keyExpression at hexpression
    split at hexpression
    · split at hexpression
      · cases hexpression
        exact .plain (by decide) (by decide)
      · split at hexpression
        · cases hexpression
          exact .key
        · split at hexpression
          · cases hexpression
            exact .plain (by decide) (by decide)
          · cases hexpression
    · cases hexpression
  | @merge template value text htemplate hshown htext =>
    obtain ⟨shape, name, front, hname, hfront, hbegin, rfl⟩ := merge_eq htemplate htext
    have hmerge := isInline_mergeCall hf hname shape
    have hstart : "msg.".toList <+: front := by
      refine hbegin "msg.".toList (by decide) ?_
      cases shape <;> simp [mergeCall]
    have hclean : IsInline (String.ofList front ++ value) := by
      have hempty : IsInline value := by rcases hshown with rfl | rfl <;> decide
      refine isInline_append.2 ⟨hmerge.of_subset fun c _ hc => ?_, hempty⟩
      rw [String.toList_ofList] at hc
      exact hfront.subset hc
    obtain ⟨rest, rfl⟩ := hstart
    exact .of_head (isInline_append.2 ⟨hclean, by decide⟩) (c := 'm') (by simp) (by decide)

theorem referenceLine_header {header : String} (h : CodeHeader { field := f } header) :
    ReferenceLine HasUrl HasType (header ++ " \x7b") := by
  cases h with
  | defined hraw =>
    obtain ⟨⟨hquote, hfeed⟩, -⟩ := isInline_rawValue hf hraw
    refine .of_head (c := 'i') ?_ (by simp) (by decide)
    simp [IsInline, isDefined, hquote, hfeed]
  | present hraw =>
    obtain ⟨⟨hquote, hfeed⟩, -⟩ := isInline_rawValue hf hraw
    refine .of_head (c := 'i') ?_ (by simp) (by decide)
    simp [IsInline, isPresent, hquote, hfeed]
  | isNull hraw =>
    obtain ⟨⟨hquote, hfeed⟩, -⟩ := isInline_raw hf hraw
    refine .of_head (c := 'i') ?_ (by simp) (by decide)
    simp [IsInline, hquote, hfeed]
  | forEach hraw =>
    obtain ⟨⟨hquote, hfeed⟩, hhead⟩ := isInline_rawValue hf hraw
    refine .of_head (c := 'o') ?_ (by simp [hhead]) (by decide)
    simp [IsInline, listItem, hquote, hfeed]
  | forIn hraw =>
    obtain ⟨⟨hquote, hfeed⟩, -⟩ := isInline_rawValue hf hraw
    refine .of_head (c := 'f') ?_ (by simp) (by decide)
    simp [IsInline, propertyName, hquote, hfeed]
  | owns hraw =>
    obtain ⟨⟨hquote, hfeed⟩, -⟩ := isInline_rawValue hf hraw
    refine .of_head (c := 'i') ?_ (by simp) (by decide)
    simp [IsInline, propertyName, hquote, hfeed]

end FieldToParse

end Protogen
