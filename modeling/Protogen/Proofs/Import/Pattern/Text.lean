import Mathlib.Data.List.Infix
import Protogen.Import.Pattern
import Protogen.Proofs.Path
import Protogen.Proofs.Text.Occurrence
import Protogen.Proofs.Text.Trim

/-!
# Patterns and their texts

White space and the mark for subdirectories are looked for at the ends of a text, before it is cut
into names; the empty ones of these are dropped afterwards. So slashes at an end can protect what
would not be part of a name there: `a/*/` is a directory `*` and not the mark, and the text of what is
read is `a/*`.

* `body` and `isMarked` are the parts of a text that is read; `read_eq_ok_iff` and
  `read_eq_error_iff` say what comes of them.
* `IsProper` is what every pattern that is read satisfies; `IsProper.trim_text_iff` and
  `isMarked_text_iff` say when white space and a mark are found in the text of such a pattern.
* `IsLegible` are those whose texts are read back, by `read_text_iff`.
-/

set_option autoImplicit false

namespace Protogen.Import

variable {p : Pattern} {name text : String} {chars : List Char}

/-! ## Names between slashes -/

theorem head?_intercalate (h : name ≠ "") (names : List String) :
    (String.intercalate "/" (name :: names)).toList.head? = name.toList.head? := by
  have hname : name.toList ≠ [] := fun hnil => h (String.toList_eq_nil_iff.1 hnil)
  cases names with
  | nil => rw [String.intercalate_singleton]
  | cons other names =>
    rw [String.intercalate_cons_cons, String.toList_append, String.toList_append,
      List.append_assoc, List.head?_append_of_ne_nil _ hname]

theorem getLast?_intercalate (h : name ≠ "") (before : List String) :
    (String.intercalate "/" (before ++ [name])).toList.getLast? = name.toList.getLast? := by
  have hname : name.toList ≠ [] := fun hnil => h (String.toList_eq_nil_iff.1 hnil)
  cases before with
  | nil => rw [List.nil_append, String.intercalate_singleton]
  | cons first before =>
    rw [String.intercalate_append_of_ne_nil (List.cons_ne_nil _ _) (List.cons_ne_nil _ _),
      String.intercalate_singleton, String.toList_append, List.getLast?_append_of_ne_nil _ hname]

namespace Pattern

/-! ## Reading -/

/-- The names of a text that count. -/
def namesOf (chars : List Char) : List String :=
  (Text.split '/' (String.ofList chars)).filter (· != "")

/-- Whether a text, but for white space, closes with the mark of a pattern with subdirectories. -/
def isMarked (text : String) : Bool :=
  (Text.dropEnd? nestedMark.toList (Text.trim text.toList)).isSome

/-- A text without white space at its ends and without this mark. -/
def body (text : String) : List Char :=
  (Text.dropEnd? nestedMark.toList (Text.trim text.toList)).getD (Text.trim text.toList)

theorem trim_eq_body_append (text : String) :
    Text.trim text.toList = body text ++ if isMarked text then nestedMark.toList else [] := by
  unfold body isMarked
  cases hdrop : Text.dropEnd? nestedMark.toList (Text.trim text.toList) with
  | none => exact (List.append_nil _).symm
  | some directory => exact Text.dropEnd?_eq_some_iff.1 hdrop

theorem read_eq (text : String) :
    read text = if (namesOf (body text)).isEmpty then .error .emptyPattern
      else .ok ⟨namesOf (body text), isMarked text⟩ := by
  cases hdrop : Text.dropEnd? nestedMark.toList (Text.trim text.toList) with
  | none => simp only [read, body, isMarked, namesOf, hdrop, Option.getD_none, Option.isSome_none]
  | some directory =>
    simp only [read, body, isMarked, namesOf, hdrop, Option.getD_some, Option.isSome_some]

theorem read_eq_ok_iff :
    read text = .ok p ↔
      namesOf (body text) ≠ [] ∧ p.elements = namesOf (body text) ∧ p.nested = isMarked text := by
  rw [read_eq, ← List.isEmpty_eq_false_iff]
  cases hempty : (namesOf (body text)).isEmpty with
  | true => simp
  | false =>
    obtain ⟨elements, nested⟩ := p
    simp [eq_comm]

/-- The characters between the slashes are all there is besides them. -/
theorem namesOf_eq_nil_iff : namesOf chars = [] ↔ ∀ c ∈ chars, c = '/' := by
  have hpieces : namesOf chars = [] ↔ ∀ piece ∈ chars.splitOn '/', piece = [] := by
    simp [namesOf, Text.split, List.filter_eq_nil_iff]
  rw [hpieces]
  constructor
  · intro h c hc
    by_contra hslash
    have hword : '/' ∉ [c] := fun hmem => hslash (List.mem_singleton.1 hmem).symm
    have hjoined : [c] <:+: ['/'].intercalate (chars.splitOn '/') := by
      rw [List.intercalate_splitOn]
      exact (List.singleton_infix_iff c chars).2 hc
    obtain ⟨piece, hpiece, hpart⟩ :=
      Text.exists_infix_of_intercalate hword (List.cons_ne_nil _ _) hjoined
    rw [h piece hpiece] at hpart
    exact absurd (List.infix_nil.1 hpart) (List.cons_ne_nil _ _)
  · intro h piece hpiece
    have hpart := Text.infix_intercalate hpiece ['/']
    rw [List.intercalate_splitOn] at hpart
    refine List.eq_nil_iff_forall_not_mem.2 fun c hc => ?_
    have hslash := h c (hpart.subset hc)
    rw [hslash] at hc
    exact Path.not_mem_of_mem_splitOn hpiece hc

/-- No pattern is read where nothing but slashes is left. -/
theorem read_eq_error_iff {fault : ModuleFault} :
    read text = .error fault ↔ (∀ c ∈ body text, c = '/') ∧ fault = .emptyPattern := by
  rw [← namesOf_eq_nil_iff, ← List.isEmpty_iff, read_eq]
  cases (namesOf (body text)).isEmpty <;> simp [eq_comm]

/-- The names of a text are no longer than the text. -/
theorem length_intercalate_namesOf (chars : List Char) :
    (String.intercalate "/" (namesOf chars)).toList.length ≤ chars.length := by
  have hnames : (namesOf chars).map String.toList =
      (chars.splitOn '/').filter fun piece => String.ofList piece != "" := by
    rw [namesOf, Text.split, String.toList_ofList, List.filter_map, List.map_map]
    exact List.map_id'' (fun piece => String.toList_ofList) _
  rw [String.toList_intercalate, hnames]
  refine (Text.sublist_intercalate (List.filter_sublist ..)).length_le.trans ?_
  rw [show "/".toList = ['/'] from rfl, List.intercalate_splitOn]

/-- What is read has names, and none of these is empty or has a slash. -/
structure IsProper (p : Pattern) : Prop where
  someName : p.elements ≠ []
  filled : ∀ name ∈ p.elements, name ≠ ""
  noSlash : ∀ name ∈ p.elements, '/' ∉ name.toList

theorem isProper_of_read (h : read text = .ok p) : p.IsProper := by
  obtain ⟨hne, helements, -⟩ := read_eq_ok_iff.1 h
  have hmem : ∀ name ∈ p.elements, name ∈ Text.split '/' (String.ofList (body text)) ∧ name ≠ "" := by
    intro name hname
    rw [helements] at hname
    simpa [namesOf] using hname
  exact ⟨helements ▸ hne, fun name hname => (hmem name hname).2,
    fun name hname => Path.not_mem_of_mem_split (hmem name hname).1⟩

/-! ## Reading a text that was written -/

theorem toList_text (p : Pattern) :
    p.text.toList = (String.intercalate "/" p.elements).toList ++
      if p.nested then nestedMark.toList else [] := by
  rw [text, String.toList_append]
  cases p.nested <;> rfl

/-- The names of a pattern are read back from between slashes. -/
theorem IsProper.namesOf_intercalate (h : p.IsProper) :
    namesOf (String.intercalate "/" p.elements).toList = p.elements := by
  rw [namesOf, String.ofList_toList, Path.split_intercalate h.someName h.noSlash,
    List.filter_eq_self]
  intro name hname
  simpa using h.filled name hname

/-- A pattern whose text is read back: the text neither begins nor ends with white space, and without
subdirectories the last of several names is not an asterisk. -/
structure IsLegible (p : Pattern) : Prop where
  start : ∀ name ∈ p.elements.head?, ∀ c ∈ name.toList.head?, Text.isBlank c = false
  stop : p.nested = false →
    ∀ name ∈ p.elements.getLast?, ∀ c ∈ name.toList.getLast?, Text.isBlank c = false
  unmarked : p.nested = false → ∀ before, p.elements = before ++ ["*"] → before = []

theorem IsProper.head?_text (h : p.IsProper) :
    p.text.toList.head? = p.elements.head?.bind fun name => name.toList.head? := by
  obtain ⟨first, names, hnames⟩ := List.exists_cons_of_ne_nil h.someName
  have hfirst : first ≠ "" := h.filled first (by simp [hnames])
  have hhead := head?_intercalate hfirst names
  have hchars : (String.intercalate "/" (first :: names)).toList ≠ [] := by
    rw [ne_eq, ← List.head?_eq_none_iff, hhead, List.head?_eq_none_iff, String.toList_eq_nil_iff]
    exact hfirst
  rw [toList_text, hnames, List.head?_append_of_ne_nil _ hchars, hhead]
  rfl

theorem IsProper.getLast?_text (h : p.IsProper) :
    p.text.toList.getLast? = if p.nested then some '*'
      else p.elements.getLast?.bind fun name => name.toList.getLast? := by
  rw [toList_text]
  cases p.nested with
  | true => rw [if_pos rfl, if_pos rfl, List.getLast?_append_of_ne_nil _ (by decide)]; rfl
  | false =>
    obtain hnil | ⟨before, last, hnames⟩ := List.eq_nil_or_concat p.elements
    · exact absurd hnil h.someName
    · have hlast : last ≠ "" := h.filled last (by simp [hnames])
      rw [List.concat_eq_append] at hnames
      rw [if_neg Bool.false_ne_true, if_neg Bool.false_ne_true, List.append_nil, hnames,
        getLast?_intercalate hlast, List.getLast?_concat, Option.bind_some]

theorem IsProper.trim_text_iff (h : p.IsProper) :
    Text.trim p.text.toList = p.text.toList ↔
      (∀ name ∈ p.elements.head?, ∀ c ∈ name.toList.head?, Text.isBlank c = false) ∧
      (p.nested = false →
        ∀ name ∈ p.elements.getLast?, ∀ c ∈ name.toList.getLast?, Text.isBlank c = false) := by
  rw [Text.trim, Text.trimBy_eq_self_iff, h.head?_text, h.getLast?_text]
  refine and_congr ?_ ?_
  · simp only [Option.mem_def, Option.bind_eq_some_iff]
    exact ⟨fun hstart name hname c hc => hstart c ⟨name, hname, hc⟩,
      fun hstart c ⟨name, hname, hc⟩ => hstart name hname c hc⟩
  · cases p.nested with
    | true =>
      have hasterisk : Text.isBlank '*' = false := by decide
      simp [hasterisk]
    | false =>
      simp only [Bool.false_eq_true, if_false, true_implies, Option.mem_def,
        Option.bind_eq_some_iff]
      exact ⟨fun hstop name hname c hc => hstop c ⟨name, hname, hc⟩,
        fun hstop c ⟨name, hname, hc⟩ => hstop name hname c hc⟩

/-- The mark at the end of some names is an asterisk behind others. -/
theorem IsProper.mark_suffix_iff (h : p.IsProper) :
    nestedMark.toList <:+ (String.intercalate "/" p.elements).toList ↔
      ∃ before, before ≠ [] ∧ p.elements = before ++ ["*"] := by
  constructor
  · rintro ⟨front, hfront⟩
    have hsplit := Path.split_intercalate h.someName h.noSlash
    have hnames : String.intercalate "/" p.elements = String.ofList front ++ "/" ++ "*" := by
      rw [← String.toList_inj, ← hfront]
      simp [nestedMark]
    rw [hnames, Path.split_slash] at hsplit
    refine ⟨_, ?_, hsplit.symm⟩
    simp [Text.split]
  · rintro ⟨before, hbefore, helements⟩
    rw [helements, String.intercalate_append_of_ne_nil hbefore (List.cons_ne_nil _ _),
      String.intercalate_singleton, String.append_assoc, String.toList_append]
    exact List.suffix_append _ _

/-- White space at the ends of a text that is read back would be lost: what is read has no more
characters than it was read from. -/
theorem trim_text_of_read (h : read p.text = .ok p) : Text.trim p.text.toList = p.text.toList := by
  obtain ⟨-, helements, hnested⟩ := read_eq_ok_iff.1 h
  have hnames := length_intercalate_namesOf (body p.text)
  rw [← helements] at hnames
  have hsublist : (Text.trim p.text.toList).Sublist p.text.toList :=
    (Text.trimBy_sublist Text.isBlank p.text.toList).trans (List.dropWhile_sublist _)
  refine hsublist.eq_of_length_le ?_
  rw [trim_eq_body_append, toList_text, List.length_append, List.length_append, ← hnested]
  omega

/-- The mark of a text without white space at its ends is that of the pattern, unless the names look
like it. -/
theorem isMarked_text_iff (htrim : Text.trim p.text.toList = p.text.toList) :
    isMarked p.text = p.nested ↔ (p.nested = false →
      ¬nestedMark.toList <:+ (String.intercalate "/" p.elements).toList) := by
  have hmarked : isMarked p.text = true ↔ nestedMark.toList <:+ p.text.toList := by
    rw [isMarked, htrim, Option.isSome_iff_exists]
    simp only [Text.dropEnd?_eq_some_iff]
    exact exists_congr fun _ => eq_comm
  rw [toList_text] at hmarked
  cases hnested : p.nested with
  | true =>
    rw [hnested, if_pos rfl] at hmarked
    simp [hmarked.2 (List.suffix_append _ _)]
  | false =>
    rw [hnested, if_neg Bool.false_ne_true, List.append_nil] at hmarked
    rw [← Bool.not_eq_true, hmarked]
    simp

/-- A pattern is read back if neither white space nor a mark is found where its text has none. -/
theorem IsProper.read_text_iff_isMarked (h : p.IsProper) :
    read p.text = .ok p ↔
      Text.trim p.text.toList = p.text.toList ∧ isMarked p.text = p.nested := by
  constructor
  · intro hread
    obtain ⟨-, -, hnested⟩ := read_eq_ok_iff.1 hread
    exact ⟨trim_text_of_read hread, hnested.symm⟩
  · rintro ⟨htrim, hmarked⟩
    have hbody : body p.text = (String.intercalate "/" p.elements).toList := by
      have htext := trim_eq_body_append p.text
      rw [htrim, toList_text, hmarked] at htext
      exact (List.append_cancel_right htext).symm
    rw [read_eq_ok_iff, hbody, h.namesOf_intercalate]
    exact ⟨h.someName, rfl, hmarked.symm⟩

/-- What is read from a text is read back from its own text if that neither begins nor ends with white
space, and without subdirectories does not end with an asterisk behind other names. -/
theorem read_text_iff (h : read text = .ok p) : read p.text = .ok p ↔ p.IsLegible := by
  have hproper := isProper_of_read h
  rw [hproper.read_text_iff_isMarked]
  constructor
  · rintro ⟨htrim, hmarked⟩
    obtain ⟨hstart, hstop⟩ := hproper.trim_text_iff.1 htrim
    have hmark := (isMarked_text_iff htrim).1 hmarked
    rw [hproper.mark_suffix_iff] at hmark
    refine ⟨hstart, hstop, fun hexact before helements => ?_⟩
    by_contra hbefore
    exact hmark hexact ⟨before, hbefore, helements⟩
  · rintro ⟨hstart, hstop, hunmarked⟩
    have htrim := hproper.trim_text_iff.2 ⟨hstart, hstop⟩
    refine ⟨htrim, (isMarked_text_iff htrim).2 fun hexact hsuffix => ?_⟩
    obtain ⟨before, hbefore, helements⟩ := hproper.mark_suffix_iff.1 hsuffix
    exact hbefore (hunmarked hexact before helements)

/-- A slash behind it makes a mark a name, and its text a mark again. -/
theorem read_text_iff_slash :
    read "a/*/" = .ok ⟨["a", "*"], false⟩ ∧ read "a/*" ≠ .ok ⟨["a", "*"], false⟩ ∧
      (Pattern.mk ["a", "*"] false).text = "a/*" := by
  have hread : read "a/*/" = .ok ⟨["a", "*"], false⟩ := by decide
  refine ⟨hread, fun hback => ?_, by decide⟩
  exact absurd (((read_text_iff hread).1 hback).unmarked rfl ["a"] rfl) (List.cons_ne_nil _ _)

end Pattern

end Protogen.Import
