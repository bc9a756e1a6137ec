import Protogen.Proofs.Code.Emits
import Protogen.Proofs.Script.Parts

/-!
# Reading statements back

Lines that well-formed statements are written as are read as these statements, at any depth.

* `readHeader_text` and `readSimple_text` read single lines back, `readPhrase_opening` and
  `readPhrase_simple` tell the kinds of lines apart by how they end.
* `Reading.steps_linesOf` reads statements back inside any block, by induction on statements.
* `Program.read_lines` reads a function back from its indented lines.
-/

set_option autoImplicit false

namespace Protogen.Script

open Text Code

mutual

/-- Whether the names that a statement consists of are identifiers. -/
def Statement.isWellFormed : Statement → Bool
  | .when test body => test.isWellFormed && areWellFormed body
  | .choose test body otherwise =>
    test.isWellFormed && areWellFormed body && areWellFormed otherwise
  | .forEach list item body => list.isWellFormed && isIdentifier item.toList && areWellFormed body
  | .forIn object body => object.isWellFormed && areWellFormed body
  | .bind name conversion raw => isIdentifier name.toList && conversion.isWellFormed raw
  | .create name _ => isIdentifier name.toList
  | .merge message _ arguments =>
    isIdentifier message.toList && arguments.all Operand.isWellFormed && !arguments.isEmpty
  | .leave result => result.isWellFormed

/-- Whether the names that statements consist of are identifiers. -/
def areWellFormed : List Statement → Bool
  | [] => true
  | statement :: rest => statement.isWellFormed && areWellFormed rest

end

/-! ## Keywords -/

/-- A keyword is not in front of a name that something else than its blank follows. -/
theorem dropStart?_keyword {keyword name after rest : List Char} {c d : Char}
    (hkeyword : isIdentifier keyword = true) (hname : isIdentifier name = true)
    (hc : isIdentifierChar c = false) (hd : isIdentifierChar d = false) (hne : c ≠ d) :
    dropStart? (keyword ++ c :: after) (name ++ d :: rest) = none := by
  rw [dropStart?_eq_none_iff]
  intro more heq
  have hleft := takeIdentifier_append (d :: rest) hname (by simp [hd])
  have hright := takeIdentifier_append (c :: (after ++ more)) hkeyword (by simp [hc])
  rw [heq, List.append_assoc, List.cons_append, hright] at hleft
  injection hleft with hleft
  injection hleft with _ hleft
  injection hleft with hleft
  exact hne hleft

/-- In front of a dot, an access begins with a name that a dot follows. -/
theorem Access.exists_name {a : Access} (h : a.isWellFormed = true) (rest : List Char) :
    ∃ name after, isIdentifier name = true ∧
      a.text.toList ++ '.' :: rest = name ++ '.' :: after := by
  cases a with
  | var name => exact ⟨name.toList, rest, h, rfl⟩
  | property object key =>
    simp only [Access.isWellFormed, Bool.and_eq_true] at h
    exact ⟨object.toList, key.toList ++ '.' :: rest, h.1, by simp [Access.text]⟩
  | entry object key =>
    simp only [Access.isWellFormed, Bool.and_eq_true] at h
    exact ⟨object.toList, key.toList ++ entryText.toList ++ '.' :: rest, h.1,
      by simp [Access.text]⟩

/-! ## Lines of statements -/

theorem readHeader_when {test : Test} (h : test.isWellFormed = true) :
    readHeader (whenHeader test).toList = some (.when test) := by
  have hend := dropEnd?_append test.text.toList [')']
  simp [readHeader, whenHeader, hend, readTest_text h]

theorem readHeader_forIn {object : Access} (h : object.isWellFormed = true) :
    readHeader (forInHeader object).toList = some (.forIn object) := by
  have hif : ∀ rest, dropStart? ifText.toList (forText.toList ++ rest) = none := by
    intro rest
    simp [ifText, forText, dropStart?]
  have hend := dropEnd?_append object.text.toList [')']
  simp [readHeader, forInHeader, hif, hend, readAccess_text h]

theorem readHeader_forEach {list : Access} {item : String} (h : list.isWellFormed = true)
    (hitem : isIdentifier item.toList = true) :
    readHeader (forEachHeader list item).toList = some (.forEach list item) := by
  have hround : '(' ∉ list.text.toList :=
    Access.not_mem_text h (by decide) (by decide) (by decide) (by decide)
  have hmem : '(' ∈ forEachText.toList := by simp [forEachText]
  have htext : (forEachHeader list item).toList =
      list.text.toList ++ forEachText.toList ++ (item.toList ++ callbackText.toList) := by
    simp [forEachHeader]
  have hdot : forEachText.toList = '.' :: "forEach((".toList := by decide
  obtain ⟨name, after, hname, hbegin⟩ := Access.exists_name h
    ("forEach((".toList ++ (item.toList ++ callbackText.toList))
  have hstart : (forEachHeader list item).toList = name ++ '.' :: after := by
    rw [htext, hdot, List.append_assoc]
    exact hbegin
  have hif : dropStart? ifText.toList (forEachHeader list item).toList = none := by
    have hkeyword : ifText.toList = ['i', 'f'] ++ ' ' :: ['('] := by decide
    rw [hstart, hkeyword]
    exact dropStart?_keyword (by decide) hname (by decide) (by decide) (by decide)
  have hfor : dropStart? forText.toList (forEachHeader list item).toList = none := by
    have hkeyword : forText.toList = ['f', 'o', 'r'] ++ ' ' :: "(let attribute in ".toList := by
      decide
    rw [hstart, hkeyword]
    exact dropStart?_keyword (by decide) hname (by decide) (by decide) (by decide)
  have hcut := cut?_append (item.toList ++ callbackText.toList) hmem hround
  rw [readHeader, hif, hfor, htext]
  simp only [hcut]
  simp [readAccess_text h, readName_toList hitem]

theorem readBinding_bind {name : String} {conversion : Conversion} {raw : Access}
    (hname : isIdentifier name.toList = true) (h : conversion.isWellFormed raw = true) :
    readBinding (name.toList ++ equalsText.toList ++ (conversion.text raw.text).toList) =
      some (.bind name conversion raw) := by
  have hblank : ' ' ∉ name.toList := not_mem_of_isIdentifier hname (by decide)
  have hequals : ' ' ∈ equalsText.toList := by simp [equalsText]
  have hcut := cut?_append (conversion.text raw.text).toList hequals hblank
  have hnew : (dropStart? newText.toList (conversion.text raw.text).toList).bind
      (dropEnd? newEnd.toList) = none := by
    cases hd : dropStart? newText.toList (conversion.text raw.text).toList with
    | none => rfl
    | some rest =>
      have hend := dropEnd?_newEnd h
      rw [dropStart?_eq_some_iff.1 hd, dropEnd?_eq_none_iff] at hend
      rw [Option.bind_some, dropEnd?_eq_none_iff]
      intro typeName heq
      exact hend (newText.toList ++ typeName) (by rw [heq, List.append_assoc])
  rw [readBinding, hcut]
  simp only [Option.bind_eq_bind, Option.bind_some, hnew]
  simp [readName_toList hname, readConversion_text h]

theorem readBinding_create {name : String} (typeName : String) (hname : isIdentifier name.toList = true) :
    readBinding (name.toList ++ equalsText.toList ++ (newText ++ typeName ++ newEnd).toList) =
      some (.create name typeName) := by
  have hblank : ' ' ∉ name.toList := not_mem_of_isIdentifier hname (by decide)
  have hequals : ' ' ∈ equalsText.toList := by simp [equalsText]
  have hcut := cut?_append (newText ++ typeName ++ newEnd).toList hequals hblank
  have hnew : (dropStart? newText.toList (newText ++ typeName ++ newEnd).toList).bind
      (dropEnd? newEnd.toList) = some typeName.toList := by simp
  rw [readBinding, hcut]
  simp only [Option.bind_eq_bind, Option.bind_some, hnew]
  simp [readName_toList hname]

theorem readCall_text (accessor : String) {message : String} {arguments : List Operand}
    (hmessage : isIdentifier message.toList = true) (hne : arguments ≠ [])
    (h : ∀ o ∈ arguments, o.isWellFormed = true) :
    readCall (message ++ "." ++ accessor ++ "(" ++ argumentsText arguments ++ ")").toList =
      some (.merge message accessor arguments) := by
  have hdot : '.' ∉ message.toList := not_mem_of_isIdentifier hmessage (by decide)
  have hcut := cut?_append accessor.toList (List.mem_singleton_self '.') hdot
  have hlast := cutLast_append (message.toList ++ ['.'] ++ accessor.toList)
    (not_mem_argumentsText h)
  have hend := dropEnd?_append
    (message.toList ++ ['.'] ++ accessor.toList ++ '(' :: (argumentsText arguments).toList) [')']
  have htext : (message ++ "." ++ accessor ++ "(" ++ argumentsText arguments ++ ")").toList =
      message.toList ++ ['.'] ++ accessor.toList ++ '(' :: (argumentsText arguments).toList ++ [')']
      := by simp
  rw [htext, readCall, hend]
  simp only [Option.bind_eq_bind, Option.bind_some, hlast, hcut]
  simp [readName_toList hmessage, readArguments_text hne h]

/-- The text of a statement that takes one line, up to its semicolon. -/
def Statement.simpleText : Statement → Option String
  | .bind name conversion raw => some (letText ++ name ++ equalsText ++ conversion.text raw.text)
  | .create name typeName => some (letText ++ name ++ equalsText ++ newText ++ typeName ++ newEnd)
  | .merge message accessor arguments =>
    some (message ++ "." ++ accessor ++ "(" ++ argumentsText arguments ++ ")")
  | .leave result => some (returnText ++ result.text)
  | _ => none

theorem Statement.lines_of_simpleText {statement : Statement} {text : String}
    (h : statement.simpleText = some text) : statement.lines = simpleLine text := by
  cases statement <;> simp_all [Statement.simpleText, Statement.lines]

theorem readSimple_text {statement : Statement} {text : String}
    (h : statement.simpleText = some text) (hwf : statement.isWellFormed = true) :
    readSimple text.toList = some statement := by
  cases statement with
  | bind name conversion raw =>
    simp only [Statement.isWellFormed, Bool.and_eq_true] at hwf
    have hread := readBinding_bind hwf.1 hwf.2
    cases h
    have htext : (letText ++ name ++ equalsText ++ conversion.text raw.text).toList = letText.toList
        ++ (name.toList ++ equalsText.toList ++ (conversion.text raw.text).toList) := by simp
    rw [htext, readSimple, dropStart?_append]
    exact hread
  | create name typeName =>
    have hread := readBinding_create typeName hwf
    cases h
    have htext : (letText ++ name ++ equalsText ++ newText ++ typeName ++ newEnd).toList =
        letText.toList ++
          (name.toList ++ equalsText.toList ++ (newText ++ typeName ++ newEnd).toList) := by simp
    rw [htext, readSimple, dropStart?_append]
    exact hread
  | merge message accessor arguments =>
    simp only [Statement.isWellFormed, Bool.and_eq_true, List.all_eq_true, Bool.not_eq_true',
      List.isEmpty_eq_false_iff] at hwf
    obtain ⟨⟨hmessage, harguments⟩, hne⟩ := hwf
    have hread := readCall_text accessor hmessage hne harguments
    have hlet : letText.toList = ['l', 'e', 't'] ++ ' ' :: [] := by decide
    have hreturn : returnText.toList = ['r', 'e', 't', 'u', 'r', 'n'] ++ ' ' :: [] := by decide
    cases h
    obtain ⟨rest, hrest⟩ : ∃ rest,
        (message ++ "." ++ accessor ++ "(" ++ argumentsText arguments ++ ")").toList =
          message.toList ++ '.' :: rest :=
      ⟨accessor.toList ++ '(' :: (argumentsText arguments).toList ++ [')'], by simp⟩
    have hnolet : dropStart? letText.toList (message.toList ++ '.' :: rest) = none := by
      rw [hlet]
      exact dropStart?_keyword (by decide) hmessage (by decide) (by decide) (by decide)
    have hnoreturn : dropStart? returnText.toList (message.toList ++ '.' :: rest) = none := by
      rw [hreturn]
      exact dropStart?_keyword (by decide) hmessage (by decide) (by decide) (by decide)
    rw [hrest] at hread ⊢
    rw [readSimple, hnolet, hnoreturn]
    exact hread
  | leave result =>
    have hlet : dropStart? letText.toList (returnText ++ result.text).toList = none := by
      simp [letText, returnText, dropStart?]
    cases h
    rw [readSimple, hlet]
    simp [readOperand_text hwf]
  | _ => cases h

/-! ## Kinds of lines -/

/-- Whether a line begins like an identifier. -/
def beginsLikeName (text : List Char) : Bool := text.head?.any isIdentifierChar

theorem beginsLikeName_append {text : List Char} (rest : List Char)
    (h : beginsLikeName text = true) : beginsLikeName (text ++ rest) = true := by
  cases text with
  | nil => cases h
  | cons c text => exact h

theorem beginsLikeName_of_isIdentifier {name : List Char} (h : isIdentifier name = true) :
    beginsLikeName name = true := by
  cases name with
  | nil => exact absurd rfl (ne_nil_of_isIdentifier h)
  | cons c name => exact isIdentifierChar_of_mem h (List.mem_cons_self ..)

/-- A line that begins like an identifier is not empty and closes no block. -/
theorem of_beginsLikeName {text : List Char} (h : beginsLikeName text = true) :
    text ≠ [] ∧ text ≠ otherwiseLine.text.toList ∧ dropStart? ['\x7d'] text = none ∧
      text.dropWhile (· == ' ') = text := by
  cases text with
  | nil => cases h
  | cons c text =>
    have hc : isIdentifierChar c = true := h
    have hbrace : c ≠ '\x7d' := by
      rintro rfl
      exact absurd hc (by decide)
    refine ⟨List.cons_ne_nil _ _, ?_, ?_, dropWhile_blank ?_⟩
    · intro heq
      exact hbrace (List.cons.inj (heq.trans (by decide : _ = '\x7d' :: " else \x7b".toList))).1
    · simp [dropStart?, Ne.symm hbrace]
    · rintro d ⟨⟩
      exact hc

theorem readPhrase_opening {header : String} (h : beginsLikeName header.toList = true) :
    readPhrase (header ++ " \x7b").toList = (readHeader header.toList).map .opening := by
  have htext : (header ++ " \x7b").toList = header.toList ++ [' ', '\x7b'] := by simp
  obtain ⟨hne, hother, hclose, -⟩ := of_beginsLikeName (beginsLikeName_append [' ', '\x7b'] h)
  rw [htext, readPhrase, if_neg hne, if_neg hother, hclose, dropEnd?_append]

theorem readPhrase_simple {text : String} (h : beginsLikeName text.toList = true) :
    readPhrase (text ++ ";").toList = (readSimple text.toList).map .simple := by
  have htext : (text ++ ";").toList = text.toList ++ [';'] := by simp
  have hopen : dropEnd? [' ', '\x7b'] (text.toList ++ [';']) = none :=
    dropEnd?_of_getLast?_ne (by simp) (by rw [List.getLast?_concat]; decide)
  obtain ⟨hne, hother, hclose, -⟩ := of_beginsLikeName (beginsLikeName_append [';'] h)
  rw [htext, readPhrase, if_neg hne, if_neg hother, hclose, hopen, dropEnd?_append]
  rfl

theorem readPhrase_closing {suffix : String} (h : suffix ≠ " else \x7b") :
    readPhrase ("\x7d" ++ suffix).toList = some (.closing suffix) := by
  have htext : ("\x7d" ++ suffix).toList = ['\x7d'] ++ suffix.toList := by simp
  have hother : ['\x7d'] ++ suffix.toList ≠ otherwiseLine.text.toList := by
    intro heq
    have htail := (List.cons.inj (heq.trans (by decide : _ = '\x7d' :: " else \x7b".toList))).2
    exact h (String.toList_inj.1 htail)
  rw [htext, readPhrase, if_neg (by simp), if_neg hother, dropStart?_append]
  simp

/-! ## Blocks -/

namespace Reading

variable {r : Reading} {header : String}

theorem step_opening {h : Header} (hname : beginsLikeName header.toList = true)
    (hread : readHeader header.toList = some h) :
    r.step (header ++ " \x7b") = some ⟨[], (h, r.body) :: r.outer⟩ := by
  have htext : (header ++ " \x7b").toList = header.toList ++ [' ', '\x7b'] := by simp
  have hbegin := beginsLikeName_append [' ', '\x7b'] hname
  have hblank : (header ++ " \x7b").toList.dropWhile (· == ' ') = (header ++ " \x7b").toList := by
    rw [htext]
    exact (of_beginsLikeName hbegin).2.2.2
  rw [step, hblank, readPhrase_opening hname, hread]
  rfl

theorem step_simple {text : String} {statement : Statement}
    (hname : beginsLikeName text.toList = true) (hread : readSimple text.toList = some statement) :
    r.step (text ++ ";") = some { r with body := r.body ++ [statement] } := by
  have htext : (text ++ ";").toList = text.toList ++ [';'] := by simp
  have hbegin := beginsLikeName_append [';'] hname
  have hblank : (text ++ ";").toList.dropWhile (· == ' ') = (text ++ ";").toList := by
    rw [htext]
    exact (of_beginsLikeName hbegin).2.2.2
  rw [step, hblank, readPhrase_simple hname, hread]
  rfl

theorem step_closing {suffix : String} {h : Header} {statement : Statement}
    {before body : List Statement} {outer : List (Header × List Statement)}
    (hsuffix : suffix ≠ " else \x7b") (hclose : h.close body suffix = some statement) :
    (Reading.mk body ((h, before) :: outer)).step ("\x7d" ++ suffix) =
      some ⟨before ++ [statement], outer⟩ := by
  have hblank : ("\x7d" ++ suffix).toList.dropWhile (· == ' ') = ("\x7d" ++ suffix).toList := by
    simp
  rw [step, hblank, readPhrase_closing hsuffix]
  simp [take, hclose]

theorem step_otherwise {test : Test} {before body : List Statement}
    {outer : List (Header × List Statement)} :
    (Reading.mk body ((.when test, before) :: outer)).step otherwiseLine.text =
      some ⟨[], (.otherwise test body, before) :: outer⟩ := by
  have hblank : otherwiseLine.text.toList.dropWhile (· == ' ') = otherwiseLine.text.toList := by
    decide
  rw [step, hblank, readPhrase, if_neg (by decide), if_pos rfl]
  rfl

/-- Indentation does not count. -/
theorem step_indented (l : Code.Line) : r.step (Writer.indented "  " l) = r.step l.text := by
  obtain ⟨blanks, hblanks, htext⟩ := Writer.exists_toList_indented l
  rw [step, step, htext, List.dropWhile_append_of_pos]
  simpa using hblanks

theorem steps_cons (line : String) (rest : List String) :
    r.steps (line :: rest) = (r.step line).bind fun s => s.steps rest := by
  simp [steps]

theorem steps_append (first second : List String) :
    r.steps (first ++ second) = (r.steps first).bind fun s => s.steps second := by
  simp [steps, List.foldlM_append]

/-- Lines are read as statements if, wherever the reader stands, they put these statements behind
the ones of the innermost block. -/
def ReadAs (lines : List Code.Line) (statements : List Statement) : Prop :=
  ∀ r : Reading, r.steps (lines.map Code.Line.text) = some { r with body := r.body ++ statements }

theorem ReadAs.nil : ReadAs [] [] := by
  intro r
  simp [steps]

theorem ReadAs.append {lines lines' : List Code.Line} {statements statements' : List Statement}
    (h : ReadAs lines statements) (h' : ReadAs lines' statements') :
    ReadAs (lines ++ lines') (statements ++ statements') := by
  intro r
  rw [List.map_append, steps_append, h, Option.bind_some, h']
  simp

/-- Empty lines do not count. -/
theorem ReadAs.blank : ReadAs [⟨0, ""⟩] [] := by
  intro r
  have hstep : r.step "" = some r := rfl
  rw [List.map_cons, steps_cons, hstep]
  simp [steps]

/-- The depth of lines does not count. -/
theorem ReadAs.shift {lines : List Code.Line} {statements : List Statement}
    (h : ReadAs lines statements) (n : Nat) : ReadAs (lines.map (Writer.shift n)) statements := by
  intro r
  have hinner : (lines.map (Writer.shift n)).map Code.Line.text = lines.map Code.Line.text := by
    simp [Function.comp_def]
  rw [hinner]
  exact h r

/-- A block is read as the statement that its header makes of the statements inside. -/
theorem ReadAs.block {h : Header} {suffix : String} {lines : List Code.Line} {body : List Statement}
    {statement : Statement} (hname : beginsLikeName header.toList = true)
    (hread : readHeader header.toList = some h) (hsuffix : suffix ≠ " else \x7b")
    (hclose : h.close body suffix = some statement)
    (hbody : ReadAs lines body) : ReadAs (blockLines header suffix lines) [statement] := by
  intro r
  have htext : (blockLines header suffix lines).map Code.Line.text =
      (header ++ " \x7b") :: ((lines.map (Writer.shift 1)).map Code.Line.text ++ ["\x7d" ++ suffix]) := by
    simp [blockLines, openingLine, closingLine]
  rw [htext, steps_cons, step_opening hname hread, Option.bind_some, steps_append,
    hbody.shift 1, Option.bind_some, steps_cons]
  simp [step_closing hsuffix hclose, steps]

/-- A condition with an alternative is read from its two blocks. -/
theorem ReadAs.choose {test : Test} {lines lines' : List Code.Line} {body otherwise : List Statement}
    (htest : test.isWellFormed = true) (hname : beginsLikeName (whenHeader test).toList = true)
    (hbody : ReadAs lines body) (hotherwise : ReadAs lines' otherwise) :
    ReadAs (openingLine (whenHeader test) :: lines.map (Writer.shift 1) ++
      otherwiseLine :: lines'.map (Writer.shift 1) ++ [closingLine ""])
      [.choose test body otherwise] := by
  intro r
  have htext : (openingLine (whenHeader test) :: lines.map (Writer.shift 1) ++
      otherwiseLine :: lines'.map (Writer.shift 1) ++ [closingLine ""]).map Code.Line.text =
      (whenHeader test ++ " \x7b") :: ((lines.map (Writer.shift 1)).map Code.Line.text ++
        otherwiseLine.text :: ((lines'.map (Writer.shift 1)).map Code.Line.text ++ ["\x7d" ++ ""])) := by
    simp [openingLine, closingLine]
  have hclose : (Header.otherwise test body).close otherwise "" =
      some (.choose test body otherwise) := rfl
  rw [htext, steps_cons, step_opening hname (readHeader_when htest), Option.bind_some,
    steps_append, hbody.shift 1, Option.bind_some, steps_cons, List.nil_append,
    step_otherwise, Option.bind_some, steps_append, hotherwise.shift 1, Option.bind_some,
    List.nil_append, steps_cons, step_closing (by simp) hclose]
  rfl

end Reading

theorem Access.beginsLikeName_text {a : Access} (h : a.isWellFormed = true) :
    beginsLikeName a.text.toList = true := by
  cases a with
  | var name => exact beginsLikeName_of_isIdentifier h
  | property object key =>
    simp only [Access.isWellFormed, Bool.and_eq_true] at h
    simp only [Access.text, String.toList_append, List.append_assoc]
    exact beginsLikeName_append _ (beginsLikeName_of_isIdentifier h.1)
  | entry object key =>
    simp only [Access.isWellFormed, Bool.and_eq_true] at h
    simp only [Access.text, String.toList_append, List.append_assoc]
    exact beginsLikeName_append _ (beginsLikeName_of_isIdentifier h.1)

theorem beginsLikeName_whenHeader (test : Test) :
    beginsLikeName (whenHeader test).toList = true := by
  simp only [whenHeader, String.toList_append, List.append_assoc]
  exact beginsLikeName_append _ (by decide)

theorem Statement.beginsLikeName_simpleText {statement : Statement} {text : String}
    (h : statement.simpleText = some text) (hwf : statement.isWellFormed = true) :
    beginsLikeName text.toList = true := by
  have hlet : beginsLikeName letText.toList = true := by decide
  have hreturn : beginsLikeName returnText.toList = true := by decide
  cases statement with
  | merge message accessor arguments =>
    simp only [Statement.isWellFormed, Bool.and_eq_true] at hwf
    cases h
    simp only [String.toList_append, List.append_assoc]
    exact beginsLikeName_append _ (beginsLikeName_of_isIdentifier hwf.1.1)
  | bind name conversion raw =>
    cases h
    simp only [String.toList_append, List.append_assoc]
    exact beginsLikeName_append _ hlet
  | create name typeName =>
    cases h
    simp only [String.toList_append, List.append_assoc]
    exact beginsLikeName_append _ hlet
  | leave result =>
    cases h
    simp only [String.toList_append]
    exact beginsLikeName_append _ hreturn
  | _ => cases h

namespace Reading

theorem ReadAs.simple {statement : Statement} {text : String}
    (h : statement.simpleText = some text) (hwf : statement.isWellFormed = true) :
    ReadAs statement.lines [statement] := by
  intro r
  have hbegin := Statement.beginsLikeName_simpleText h hwf
  rw [Statement.lines_of_simpleText h, simpleLine, List.map_cons, steps_cons,
    step_simple hbegin (readSimple_text h hwf)]
  rfl

mutual

/-- The lines of a statement are read as that statement. -/
theorem readAs_lines (statement : Statement) (hwf : statement.isWellFormed = true) :
    ReadAs statement.lines [statement] := by
  cases statement with
  | when test body =>
    simp only [Statement.isWellFormed, Bool.and_eq_true] at hwf
    rw [Statement.lines]
    exact .block (beginsLikeName_whenHeader test) (readHeader_when hwf.1) (by simp) rfl
      (readAs_linesOf body hwf.2)
  | choose test body otherwise =>
    simp only [Statement.isWellFormed, Bool.and_eq_true] at hwf
    rw [Statement.lines]
    exact .choose hwf.1.1 (beginsLikeName_whenHeader test) (readAs_linesOf body hwf.1.2)
      (readAs_linesOf otherwise hwf.2)
  | forEach list item body =>
    simp only [Statement.isWellFormed, Bool.and_eq_true] at hwf
    have hbegin : beginsLikeName (forEachHeader list item).toList = true := by
      simp only [forEachHeader, String.toList_append, List.append_assoc]
      exact beginsLikeName_append _ (Access.beginsLikeName_text hwf.1.1)
    rw [Statement.lines]
    exact .block hbegin (readHeader_forEach hwf.1.1 hwf.1.2) (by simp) rfl
      (readAs_linesOf body hwf.2)
  | forIn object body =>
    simp only [Statement.isWellFormed, Bool.and_eq_true] at hwf
    have hbegin : beginsLikeName (forInHeader object).toList = true := by
      simp only [forInHeader, String.toList_append, List.append_assoc]
      exact beginsLikeName_append _ (by decide)
    rw [Statement.lines]
    exact .block hbegin (readHeader_forIn hwf.1) (by simp) rfl (readAs_linesOf body hwf.2)
  | bind name conversion raw => exact .simple rfl hwf
  | create name typeName => exact .simple rfl hwf
  | merge message accessor arguments => exact .simple rfl hwf
  | leave result => exact .simple rfl hwf

/-- The lines of statements are read as these statements. -/
theorem readAs_linesOf (statements : List Statement) (hwf : areWellFormed statements = true) :
    ReadAs (linesOf statements) statements := by
  cases statements with
  | nil => exact .nil
  | cons statement rest =>
    simp only [areWellFormed, Bool.and_eq_true] at hwf
    exact (readAs_lines statement hwf.1).append (readAs_linesOf rest hwf.2)

end

/-- Lines with their indentation are read like the lines alone. -/
theorem steps_indented (r : Reading) (lines : List Code.Line) :
    r.steps (lines.map (Writer.indented "  ")) = r.steps (lines.map Code.Line.text) := by
  induction lines generalizing r with
  | nil => rfl
  | cons l lines ih =>
    simp only [List.map_cons, steps_cons, step_indented, ih]

end Reading

/-! ## Functions -/

theorem readFunctionHeader_text (name : String) {argument : String}
    (h : isIdentifier argument.toList = true) :
    readFunctionHeader (name ++ functionText ++ "(" ++ argument ++ ")" ++ " \x7b") =
      some (name, argument) := by
  have htext : (name ++ functionText ++ "(" ++ argument ++ ")" ++ " \x7b").toList =
      (name.toList ++ functionText.toList ++ '(' :: argument.toList) ++ [')', ' ', '\x7b'] := by
    simp
  have hcut := cutLast_append (name.toList ++ functionText.toList)
    (not_mem_of_isIdentifier h (c := '(') (by decide))
  rw [readFunctionHeader, htext, dropEnd?_append]
  simp only [Option.bind_eq_bind, Option.bind_some, hcut, dropEnd?_append]
  simp [readName_toList h]

/-- A function is read from the indented lines of its body between its first and its last line. -/
theorem Program.read_indented (name : String) {argument : String} {lines : List Code.Line}
    {body : List Statement} (h : isIdentifier argument.toList = true)
    (hbody : Reading.ReadAs lines body) :
    Program.read ((openingLine (name ++ functionText ++ "(" ++ argument ++ ")") ::
      lines.map (Writer.shift 1) ++ [closingLine ";"]).map (Writer.indented "  ")) =
        some ⟨name, argument, body⟩ := by
  have hfirst : Writer.indented "  " (openingLine (name ++ functionText ++ "(" ++ argument ++ ")"))
      = name ++ functionText ++ "(" ++ argument ++ ")" ++ " \x7b" := by
    simp [Writer.indented, openingLine]
  have hlast : Writer.indented "  " (closingLine ";") = "\x7d;" := by decide
  have hread : readBody ((lines.map (Writer.shift 1)).map (Writer.indented "  ")) = some body := by
    rw [readBody, Reading.steps_indented, hbody.shift 1]
    simp
  simp only [List.cons_append, List.map_cons, List.map_append, List.map_nil, hfirst, hlast,
    Program.read, readFunctionHeader_text name h, List.dropLast_concat, List.getLast?_concat,
    Option.bind_eq_bind, Option.bind_some, hread]
  simp

end Protogen.Script
