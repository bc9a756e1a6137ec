import Protogen.Proofs.Field.Balance
import Protogen.Proofs.Naming.Case
import Protogen.Proofs.Output.Parser
import Protogen.Proofs.Script.Access

/-!
# The property that a field is read from

The code of a field reads its value behind a dot, which only an identifier can follow.

* `ReadsOnly` says that a line can be read, and that what it reads is the value of a field: the
  property named by the key of the field, an entry of it, or an element of it.
* `readsOnly_of_isPart`: all lines of the code of a field do so if the key is an identifier. The
  first line does so only then (`isName_of_readsOnly`).
* `reads_only_iff` is the exact condition, also for code that ends with a failure.
-/

set_option autoImplicit false

namespace Protogen

open Code Script

namespace Script

/-- Whether a text is an identifier, if these are the letters beyond ASCII. -/
def isName (letter : Char → Bool) (text : List Char) : Bool :=
  isIdentifier text && text.all fun c => c.toNat ≤ 127 || letter c

/-- Whether an access reads the value of a field: the property that the key names, the entry of it
that is being visited, or one of the variables of a loop over it. -/
inductive Access.Reads (letter : Char → Bool) (key : String) : Access → Prop
  | property (h : isName letter key.toList = true) :
      Reads letter key (.property FieldPlan.objectVariable key)
  | entry (h : isName letter key.toList = true) :
      Reads letter key (.entry FieldPlan.objectVariable key)
  | item : Reads letter key (.var FieldToParse.listItem)
  | visited : Reads letter key (.var FieldToParse.propertyName)

/-- Whether a line can be read and reads nothing but the value of a field. -/
def ReadsOnly (letter : Char → Bool) (key text : String) : Prop :=
  ∃ phrase, readPhrase text.toList = some phrase ∧ ∀ a ∈ phrase.accesses, a.Reads letter key

variable {letter : Char → Bool} {key : String}

theorem isIdentifier_of_isName {text : List Char} (h : isName letter text = true) :
    isIdentifier text = true := by
  simp only [isName, Bool.and_eq_true] at h
  exact h.1

theorem Access.Reads.isWellFormed {a : Access} (h : a.Reads letter key) :
    a.isWellFormed = true := by
  have hobject : isIdentifier FieldPlan.objectVariable.toList = true := by decide
  cases h with
  | property h => simp [Access.isWellFormed, hobject, isIdentifier_of_isName h]
  | entry h => simp [Access.isWellFormed, hobject, isIdentifier_of_isName h]
  | item => decide
  | visited => decide

theorem readsOnly_opening {header : String} {h : Header}
    (hname : beginsLikeName header.toList = true) (hread : readHeader header.toList = some h)
    (hreads : ∀ a ∈ h.accesses, a.Reads letter key) : ReadsOnly letter key (header ++ " \x7b") := by
  refine ⟨.opening h, ?_, hreads⟩
  rw [readPhrase_opening hname, hread]
  rfl

theorem readsOnly_when (test : Test) (hwf : test.isWellFormed = true)
    (hreads : ∀ a ∈ test.accesses, a.Reads letter key) :
    ReadsOnly letter key ("if (" ++ test.text ++ ")" ++ " \x7b") :=
  readsOnly_opening (beginsLikeName_whenHeader test) (readHeader_when hwf) hreads

theorem readsOnly_simple (statement : Statement) {text : String}
    (htext : statement.simpleText = some text) (hwf : statement.isWellFormed = true)
    (hreads : ∀ a ∈ (Phrase.simple statement).accesses, a.Reads letter key) :
    ReadsOnly letter key (text ++ ";") := by
  refine ⟨.simple statement, ?_, hreads⟩
  rw [readPhrase_simple (statement.beginsLikeName_simpleText htext hwf), readSimple_text htext hwf]
  rfl

end Script

namespace FieldToParse

variable {letter : Char → Bool} {f : Schema.Field} {registry : Registry} {name key : String}

/-! ## Lines of the code of a field -/

theorem rawValue_eq_text {raw : String} (hkey : f.jsonKey = .ok key)
    (h : rawValue { field := f } = .ok raw) :
    raw = (Access.property FieldPlan.objectVariable key).text := by
  rw [rawValue, hkey] at h
  exact (Except.ok.inj h).symm

/-- The values that are converted are those of the field. -/
theorem exists_access_of_raw {raw : String} (hkey : f.jsonKey = .ok key)
    (hid : isName letter key.toList = true) (h : Raw { field := f } raw) :
    ∃ a : Access, raw = a.text ∧ a.Reads letter key ∧ a ≠ .var propertyName := by
  cases h with
  | value h => exact ⟨_, rawValue_eq_text hkey h, .property hid, by simp⟩
  | item => exact ⟨_, rfl, .item, by decide⟩
  | entry h =>
    refine ⟨.entry FieldPlan.objectVariable key, ?_, .entry hid, by simp⟩
    rw [rawValue_eq_text hkey h, entry_text]

theorem readsOnly_header {header : String} (hkey : f.jsonKey = .ok key)
    (hid : isName letter key.toList = true) (h : CodeHeader { field := f } header) :
    ReadsOnly letter key (header ++ " \x7b") := by
  have hreads : (Access.property FieldPlan.objectVariable key).Reads letter key := .property hid
  have hwf := hreads.isWellFormed
  cases h with
  | defined h =>
    rw [rawValue_eq_text hkey h]
    exact readsOnly_when (.one (.isDefined (.property FieldPlan.objectVariable key))) hwf
      (by simpa [Test.accesses, Comparison.access] using hreads)
  | present h =>
    rw [rawValue_eq_text hkey h, ← present_text]
    refine readsOnly_when _ ?_ (by simpa [FieldPlan.present, Test.accesses, Comparison.access]
      using hreads)
    simp [FieldPlan.present, Test.isWellFormed, Comparison.isWellFormed, hwf]
  | isNull h =>
    obtain ⟨a, rfl, ha, -⟩ := exists_access_of_raw hkey hid h
    exact readsOnly_when (.one (.isNull a)) ha.isWellFormed
      (by simpa [Test.accesses, Comparison.access] using ha)
  | forEach h =>
    rw [rawValue_eq_text hkey h]
    have hitem : isIdentifier listItem.toList = true := by decide
    refine readsOnly_opening ?_ (readHeader_forEach hwf hitem)
      (by simpa [Header.accesses] using hreads)
    simp only [String.append_assoc, String.toList_append]
    exact beginsLikeName_append _ (Access.beginsLikeName_text hwf)
  | forIn h =>
    rw [rawValue_eq_text hkey h]
    exact readsOnly_opening (by simp [beginsLikeName, isIdentifierChar]) (readHeader_forIn hwf)
      (by simpa [Header.accesses] using hreads)
  | owns h =>
    rw [rawValue_eq_text hkey h, ← owns_text]
    exact readsOnly_when (.one (.owns _)) hwf
      (by simpa [Test.accesses, Comparison.access] using hreads)

theorem readsOnly_bind {variableName : String} {conversion : Conversion} (raw : Access)
    (hname : isIdentifier variableName.toList = true) (hwf : conversion.isWellFormed raw = true)
    (hraw : raw.Reads letter key) : ReadsOnly letter key
      (letText ++ variableName ++ equalsText ++ conversion.text raw.text ++ ";") :=
  readsOnly_simple (.bind variableName conversion raw) rfl
    (by simp [Statement.isWellFormed, hname, hwf]) (by simpa [Phrase.accesses] using hraw)

/-- A statement that merges a value reads none. -/
theorem readsOnly_merge (shape : Shape) (operand : Operand) (h : operand.isWellFormed = true) :
    ReadsOnly letter key
      (mergeCall FieldPlan.messageVariable name shape ++ operand.text ++ ");") := by
  obtain ⟨holding, rfl⟩ : ∃ holding : Holding, holding.shape = shape := by
    cases shape with
    | singular => exact ⟨.one, rfl⟩
    | repeated => exact ⟨.list, rfl⟩
    | map => exact ⟨.map .plain, rfl⟩
  -- of the plan, only the name and the shape matter for the statement
  have hlines := FieldPlan.merge_lines ⟨name, key, .primitive "", .plain, holding⟩ operand
  have hsimple : ∀ p : FieldPlan, ∃ text, (p.merge operand).simpleText = some text :=
    fun p => ⟨_, rfl⟩
  obtain ⟨text, htext⟩ := hsimple ⟨name, key, .primitive "", .plain, holding⟩
  rw [Statement.lines_of_simpleText htext] at hlines
  have hline : text ++ ";" = mergeCall FieldPlan.messageVariable name holding.shape ++
      operand.text ++ ");" := congrArg Line.text (List.cons.inj hlines).1
  rw [← hline]
  exact readsOnly_simple _ htext (FieldPlan.isWellFormed_merge _ h)
    (by simp [FieldPlan.merge, Phrase.accesses])

theorem readsOnly_code {text : String} (hkey : f.jsonKey = .ok key)
    (hid : isName letter key.toList = true) (hname : f.hasPlainName = true)
    (h : CodeLine { field := f } registry text) : ReadsOnly letter key text := by
  cases h with
  | @value kind raw expression hraw _ h =>
    obtain ⟨a, rfl, ha, hne⟩ := exists_access_of_raw hkey hid hraw
    rw [valueExpression_eq] at h
    obtain ⟨conversion, -, rfl⟩ := map_eq_ok.1 h
    have hwf : conversion.isWellFormed a = true := by
      cases conversion <;> simp [Conversion.isWellFormed, ha.isWellFormed, hne]
    exact readsOnly_bind a (by decide) hwf ha
  | @key kind expression h =>
    rw [keyExpression_eq] at h
    obtain ⟨conversion, hconversion, rfl⟩ := map_eq_ok.1 h
    have hwf : conversion.isWellFormed (.var propertyName) = true := by
      rcases FieldPlan.keyConversion_cases hconversion with rfl | rfl | rfl <;> decide
    exact readsOnly_bind (.var propertyName) (by decide) hwf .visited
  | @merge template value text htemplate hvalue h =>
    obtain ⟨shape, name, -, hdeclared, rfl⟩ := mergeFormat_eq_ok htemplate
    have hdeclared : f.name = some name := hdeclared
    have hplain : Template.isPlain name.toList = true := by
      simpa [Schema.Field.hasPlainName, hdeclared] using hname
    have hfill := fill_mergeFormat shape value hplain
    rw [show ({ field := f } : FieldToParse).target = FieldPlan.messageVariable from rfl, hfill] at h
    obtain rfl := Except.ok.inj h
    rcases hvalue with rfl | rfl
    · exact readsOnly_merge shape .null rfl
    · exact readsOnly_merge shape (.var valueVariable) (by decide)

/-- If the key is an identifier, all lines of the code of a field read nothing but its value. -/
theorem readsOnly_of_isPart {line : Line} (hkey : f.jsonKey = .ok key)
    (hid : isName letter key.toList = true) (hname : f.hasPlainName = true)
    (h : Balanced.IsPart (CodeLine { field := f } registry) (CodeHeader { field := f }) 0 line) :
    ReadsOnly letter key line.text := by
  cases h with
  | blank => exact ⟨.nothing, rfl, by simp [Phrase.accesses]⟩
  | plain _ htext => exact readsOnly_code hkey hid hname htext
  | opening _ hheader => exact readsOnly_header hkey hid hheader
  | otherwise _ =>
    exact ⟨.otherwise, by simp [readPhrase, otherwiseLine], by simp [Phrase.accesses]⟩
  | @closing _ suffix _ hsuffix =>
    have hne : ∀ suffix ∈ closingSuffixes, suffix ≠ " else \x7b" := by decide
    exact ⟨.closing suffix, readPhrase_closing (hne suffix hsuffix), by simp [Phrase.accesses]⟩

/-! ## The first line -/

/-- Whether an emission fails before it writes anything, or first writes a condition that begins with
a property. -/
def Opens (raw : String) (e : Emission Unit) : Prop :=
  ∃ r ls, Emits e r ls ∧ ((ls = [] ∧ r ≠ .ok ()) ∨
    ∃ condition rest, raw.toList <+: condition.toList ∧
      ls = ⟨0, "if (" ++ condition ++ ")" ++ " \x7b"⟩ :: rest)

theorem opens_bind_demand {α : Type} {raw : String} {r : Except Failure α} {k : α → Emission Unit}
    (h : ∀ a, r = .ok a → Opens raw (k a)) : Opens raw (Emission.demand r >>= k) := by
  cases r with
  | error failure => exact ⟨_, _, (Emits.demand _).bind_error, .inl ⟨rfl, by simp⟩⟩
  | ok a =>
    obtain ⟨s, ls, hemits, hls⟩ := h a rfl
    exact ⟨s, ls, (Emits.demand (.ok a)).bind hemits, hls⟩

theorem opens_ifBlock {Plain Header : String → Prop} {raw condition : String}
    {body : Emission Unit} (hraw : raw.toList <+: condition.toList)
    (h : Balances Plain Header body) : Opens raw (Emission.ifBlock condition body) := by
  obtain ⟨r, ls, hemits, -, -⟩ := h
  exact ⟨r, _, hemits.ifBlock, .inr ⟨condition, _, hraw, rfl⟩⟩

/-- The code of a field begins with a condition on its property. -/
theorem opens_generate (registry : Registry) (hkey : f.jsonKey = .ok key) :
    Opens (Access.property FieldPlan.objectVariable key).text
      (FieldToParse.generate { field := f } registry) := by
  have hdefined : ∀ raw : String, raw.toList <+: (isDefined raw).toList := by
    intro raw
    simp [isDefined]
  have hpresent : ∀ raw : String, raw.toList <+: (isPresent raw).toList := by
    intro raw
    simp [isPresent]
  refine opens_bind_demand fun shape _ => ?_
  cases shape with
  | singular =>
    refine opens_bind_demand fun raw h => ?_
    have hraw := failing_eq_ok.1 h
    rw [← rawValue_eq_text hkey hraw]
    have hbody : Balances (CodeLine { field := f } registry) (CodeHeader { field := f })
        (mergeParsed { field := f } raw registry) := balances_mergeParsed (.value hraw)
    exact opens_ifBlock (hdefined raw) hbody
  | repeated =>
    refine opens_bind_demand fun raw h => ?_
    have hraw := failing_eq_ok.1 h
    rw [← rawValue_eq_text hkey hraw]
    have hitem : Balances (CodeLine { field := f } registry) (CodeHeader { field := f })
        (mergeParsed { field := f } listItem registry) := balances_mergeParsed .item
    exact opens_ifBlock (hpresent raw) (.block (.forEach hraw) (by decide) hitem)
  | map =>
    refine opens_bind_demand fun raw h => ?_
    have hraw := failing_eq_ok.1 h
    rw [← rawValue_eq_text hkey hraw]
    refine opens_bind_demand fun kind hkind => ?_
    refine opens_bind_demand fun keyKind _ => ?_
    refine opens_bind_demand fun mapKey hmapKey => ?_
    have hcode : ∀ text ∈ mapKey.code, CodeLine { field := f } registry text :=
      codeLine_key (failing_eq_ok.1 hmapKey)
    exact opens_ifBlock (hpresent raw) (balances_entries hraw hkind hcode)

/-- A condition on the property reads nothing else only if the key is an identifier. -/
theorem isName_of_readsOnly {condition : String}
    (hbegins : (Access.property FieldPlan.objectVariable key).text.toList <+: condition.toList)
    (h : ReadsOnly letter key ("if (" ++ condition ++ ")" ++ " \x7b")) :
    isName letter key.toList = true := by
  obtain ⟨phrase, hread, hreads⟩ := h
  have hstart : (FieldPlan.objectVariable ++ ".").toList <+: condition.toList := by
    refine List.IsPrefix.trans ?_ hbegins
    simp [Access.text]
  obtain ⟨a, ha, other, -, heq⟩ :=
    exists_access_of_readPhrase (by decide) (by decide) hstart hread
  have hread := hreads a ha
  rcases heq with rfl | rfl
  · cases hread with
    | property h => exact h
  · cases hread with
    | entry h => exact h

/-! ## The condition -/

theorem hasPlainName_of_isDeclarable (hname : f.name = some name)
    (h : Naming.isDeclarable name.toList = true) : f.hasPlainName = true := by
  simp only [Naming.isDeclarable, Bool.and_eq_true, List.all_eq_true] at h
  obtain ⟨⟨hchars, -⟩, -⟩ := h
  simp only [Schema.Field.hasPlainName, hname, Option.all_some, Template.isPlain, List.all_eq_true]
  intro c hc
  have hopen : ('\x7b'.isAlphanum || '\x7b' == '_') = false := rfl
  have hclose : ('\x7d'.isAlphanum || '\x7d' == '_') = false := rfl
  simp only [Bool.and_eq_true, bne_iff_ne]
  constructor
  · rintro rfl
    exact Bool.false_ne_true (hopen.symm.trans (hchars _ hc))
  · rintro rfl
    exact Bool.false_ne_true (hclose.symm.trans (hchars _ hc))

/-- In camel case, the name of a field is an identifier unless it has nothing but underscores, or
nothing but underscores in front of a digit. -/
theorem isName_camelCase_iff (h : Naming.isDeclarable name.toList = true) :
    isName letter (Naming.camelCase name).toList = true ↔
      ∃ c ∈ (name.toList.dropWhile (· == '_')).head?, c.isDigit = false := by
  simp only [Naming.isDeclarable, Bool.and_eq_true, List.all_eq_true] at h
  obtain ⟨⟨hchars, -⟩, -⟩ := h
  have hhead := Naming.head?_camelChars false hchars
  have halpha : ∀ c ∈ Naming.camelChars false name.toList, c.isAlphanum = true :=
    fun c hc => Naming.isAlphanum_of_mem_camelChars hchars hc
  have hletters : (Naming.camelChars false name.toList).all isIdentifierChar = true ∧
      (Naming.camelChars false name.toList).all (fun c => c.toNat ≤ 127 || letter c) = true := by
    simp only [List.all_eq_true]
    refine ⟨fun c hc => ?_, fun c hc => ?_⟩
    · simp [isIdentifierChar, halpha c hc]
    · have hle := Text.toNat_le_of_isAlphanum (halpha c hc)
      simp [Nat.le_trans hle]
  rw [Naming.camelCase, String.toList_ofList, isName, isIdentifier, hletters.1, hletters.2]
  cases hchars : Naming.camelChars false name.toList with
  | nil =>
    rw [hchars] at hhead
    cases hname : (name.toList.dropWhile (· == '_')).head? <;> simp_all
  | cons d rest =>
    rw [hchars] at hhead
    cases hname : (name.toList.dropWhile (· == '_')).head? <;> simp_all

example : isName (fun _ => true) (Naming.camelCase "_1st_day").toList = false := by decide +kernel

/-- For a field whose name is one of a schema, everything that its code reads, as far as it is
written, is the value of the field under its key exactly if the key is an identifier. A key that the
field gives may be any text; one in camel case is an identifier unless it is empty or begins with a
digit. -/
theorem reads_only_iff (letter : Char → Bool) (registry : Registry) (hname : f.name = some name)
    (hdeclarable : Naming.isDeclarable name.toList = true) :
    ∃ key r lines, f.jsonKey = .ok key ∧
      Emits (FieldToParse.generate { field := f } registry) r lines ∧
      (r = .ok () → lines ≠ []) ∧
      ((∀ line ∈ lines, ReadsOnly letter key line.text) ↔
        lines = [] ∨ isName letter key.toList = true) ∧
      (Schema.isNamed f.jsonName = true → key = shownName f.jsonName) ∧
      (Schema.isNamed f.jsonName = false → key = Naming.camelCase name ∧
        (isName letter key.toList = true ↔
          ∃ c ∈ (name.toList.dropWhile (· == '_')).head?, c.isDigit = false)) := by
  obtain ⟨key, hkey, hgiven, hderived⟩ : ∃ key, f.jsonKey = .ok key ∧
      (Schema.isNamed f.jsonName = true → key = shownName f.jsonName) ∧
      (Schema.isNamed f.jsonName = false → key = Naming.camelCase name) := by
    unfold Schema.Field.jsonKey
    cases Schema.isNamed f.jsonName <;> simp [hname]
  obtain ⟨r, lines, hemits, hbalanced, -⟩ :=
    @balances_generate { field := f } registry
  obtain ⟨r', ls, hemits', hopens⟩ := opens_generate registry hkey
  obtain ⟨rfl, hsame⟩ := hemits.result_unique hemits'
  have htexts : lines.map Line.text = ls.map Line.text := by
    simpa [Function.comp_def] using congrArg (List.map Line.text) hsame
  refine ⟨key, r, lines, hkey, hemits, ?_, ⟨fun hreads => ?_, ?_⟩, hgiven, fun hnone => ?_⟩
  · rintro rfl rfl
    rcases hopens with ⟨-, hfails⟩ | ⟨condition, rest, -, rfl⟩
    · exact hfails rfl
    · simp at htexts
  · rcases hopens with ⟨rfl, -⟩ | ⟨condition, rest, hbegins, rfl⟩
    · left
      simpa using htexts
    · right
      have hmem : "if (" ++ condition ++ ")" ++ " \x7b" ∈ lines.map Line.text := by
        simp [htexts]
      obtain ⟨line, hline, htext⟩ := List.mem_map.1 hmem
      exact isName_of_readsOnly hbegins (htext ▸ hreads line hline)
  · rintro (rfl | hid) line hline
    · cases hline
    · exact readsOnly_of_isPart hkey hid (hasPlainName_of_isDeclarable hname hdeclarable)
        (hbalanced.isPart line hline)
  · have hderived := hderived hnone
    exact ⟨hderived, hderived ▸ isName_camelCase_iff hdeclarable⟩

/-- A field with a key that is no identifier. -/
def dashedField : Schema.Field :=
  { name := some "id", type := some { name := some "string" }, jsonName := some "order-id" }

theorem reads_only_iff_dashed :
    dashedField.name = some "id" ∧ Naming.isDeclarable "id".toList = true ∧
      dashedField.jsonKey = .ok "order-id" ∧
      ∃ lines, Emits (FieldToParse.generate { field := dashedField } ⟨[]⟩) (.ok ()) lines ∧
        ¬∀ line ∈ lines, ReadsOnly (fun _ => true) "order-id" line.text := by
  have hdeclarable : Naming.isDeclarable "id".toList = true := by decide
  obtain ⟨key, r, lines, hkey, hemits, hne, hreads, -⟩ :=
    reads_only_iff (f := dashedField) (fun _ => true) ⟨[]⟩ rfl hdeclarable
  obtain rfl : "order-id" = key := Except.ok.inj hkey
  have hplan : FieldPlan.of dashedField ⟨[]⟩ =
      .ok ⟨"id", "order-id", .primitive "string", .plain, .one⟩ := by rfl
  obtain ⟨_, hplanned, -⟩ := generate_follows (f := dashedField) ⟨[]⟩ (by decide)
  rw [hplan] at hplanned
  obtain rfl : r = .ok () := (hemits.result_unique hplanned).1
  refine ⟨rfl, hdeclarable, rfl, lines, hemits, fun hall => ?_⟩
  rcases hreads.1 hall with hnil | hid
  · exact hne rfl hnil
  · exact absurd hid (by decide)

end FieldToParse

end Protogen
