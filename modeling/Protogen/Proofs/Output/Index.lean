import Protogen.Output.Index
import Protogen.Proofs.Naming
import Protogen.Proofs.Output.File
import Protogen.Proofs.Schema.Names
import Protogen.Proofs.Text.Cut

/-!
# The tables of the index

* `FileSet.knownTypes_eq_ok`: the types of a set are listed with their URLs, messages first.
* `FileSet.exists_typeParsers` and `FileSet.mem_typeParsers_iff`: the parsers that are listed are
  those of the messages that get one.
* `FileSet.indexLines` are the lines of an index with given imports and tables, and
  `FileSet.indexText_eq` says that these are all of its text; no other line begins like an import or
  like an entry of a table (`FileSet.filter_require_indexLines`,
  `FileSet.filter_entry_indexLines`).
-/

set_option autoImplicit false

namespace Protogen.Schema

open Text

/-- URL and JavaScript type of a type. -/
def Declared.known {α : Type} (t : Declared α) : String × String :=
  (t.url, Naming.typeName t.shown)

namespace FileSet

variable {s : FileSet} {messages : List MessageType} {enums : List EnumType}

theorem knownTypes_eq_ok (hmessages : s.messageTypes = .ok messages)
    (henums : s.enumTypes = .ok enums) :
    s.knownTypes = .ok (messages.map Declared.known ++ enums.map Declared.known) :=
  bind_eq_ok.2 ⟨messages, hmessages, bind_eq_ok.2 ⟨enums, henums, rfl⟩⟩

/-- Where the messages of a set are listed, its parsers are. -/
theorem exists_typeParsers (h : s.messageTypes = .ok messages) :
    ∃ parsers, s.typeParsers = .ok parsers := by
  obtain ⟨files, hfiles, h'⟩ := bind_eq_ok.1 h
  obtain ⟨lists, hlists, -⟩ := bind_eq_ok.1 h'
  have heach : ∀ item ∈ files, ∃ parsers : List (String × String), (do
      let types ← (← declared item).targetTypes MessageType.isEligible
      pure (types.map fun t : MessageType => (t.url, t.parser))) = .ok parsers := by
    intro item hitem
    obtain ⟨types, htypes⟩ := exists_mapM_iff.1 ⟨lists, hlists⟩ item hitem
    obtain ⟨f, hf, htypes⟩ := bind_eq_ok.1 htypes
    exact ⟨_, bind_eq_ok.2 ⟨f, hf, bind_eq_ok.2 ⟨_, map_eq_ok.2 ⟨types, htypes, rfl⟩, rfl⟩⟩⟩
  obtain ⟨parsers, hparsers⟩ := exists_mapM_iff.2 heach
  exact ⟨parsers.flatten, bind_eq_ok.2 ⟨files, hfiles, bind_eq_ok.2 ⟨parsers, hparsers, rfl⟩⟩⟩

/-- The parsers that are listed. -/
theorem mem_typeParsers_iff {parsers : List (String × String)} (h : s.typeParsers = .ok parsers)
    (entry : String × String) :
    entry ∈ parsers ↔
      ∃ t, s.DeclaresMessage t ∧ t.isEligible = true ∧ entry = (t.url, t.parser) := by
  have hlist : ∀ (f : File) (items : List (String × String)), (do
      let types ← f.targetTypes MessageType.isEligible
      pure (types.map fun t : MessageType => (t.url, t.parser))) = .ok items →
        ∀ e, e ∈ items ↔ ∃ t, f.Parses t ∧ e = (t.url, t.parser) := by
    intro f items hitems e
    obtain ⟨types, htypes, hitems⟩ := bind_eq_ok.1 hitems
    cases hitems
    simp only [List.mem_map, File.mem_targetTypes_iff htypes, eq_comm]
  rw [mem_flatten_iff hlist h]
  constructor
  · rintro ⟨files, f, hfiles, hf, t, ⟨ht, heligible⟩, rfl⟩
    exact ⟨t, ⟨files, f, hfiles, hf, ht⟩, heligible, rfl⟩
  · rintro ⟨t, ⟨files, f, hfiles, hf, ht⟩, heligible, rfl⟩
    exact ⟨files, f, hfiles, hf, t, ⟨ht, heligible⟩, rfl⟩

/-! ## The text of the index -/

/-- The line that imports a compiled file. -/
def importLine (path : String) : String := "require('" ++ path ++ "');"

/-- The line that pairs a URL with a name, without a comma. -/
def entryLine (entry : String × String) : String := "  ['" ++ entry.1 ++ "', " ++ entry.2 ++ "]"

/-- The lines of the entries of a table: a comma closes each but the last. -/
def entryLines : List (String × String) → List String
  | [] => []
  | [entry] => [entryLine entry]
  | entry :: entries => (entryLine entry ++ ",") :: entryLines entries

/-- The lines of an exported table. -/
def tableLines (name : String) (entries : List (String × String)) : List String :=
  ("export const " ++ name ++ " = new Map([") :: (entryLines entries ++ ["]);"])

/-- The lines of an index. -/
def indexLines (imports : List String) (types parsers : List (String × String)) : List String :=
  ["// Generated by protojs. DO NOT EDIT!", ""] ++ imports.map importLine ++
    tableLines "types" types ++ [""] ++ tableLines "parsers" parsers

/-- Lines one after the other, each closed by a line feed. -/
def fed (lines : List String) : String := String.join (lines.map (· ++ "\n"))

theorem fed_append (first rest : List String) : fed (first ++ rest) = fed first ++ fed rest := by
  rw [fed, fed, fed, List.map_append, String.join_append]

theorem fed_cons (line : String) (rest : List String) :
    fed (line :: rest) = line ++ "\n" ++ fed rest := by
  rw [fed, fed, List.map_cons, String.join_cons]

theorem tableEntries_eq (entries : List (String × String)) :
    tableEntries entries = fed (entryLines entries) := by
  induction entries with
  | nil => rfl
  | cons entry entries ih =>
    cases entries with
    | nil => simp [tableEntries, entryLines, entryLine, fed, String.append_assoc]
    | cons next entries =>
      show "  ['" ++ entry.1 ++ "', " ++ entry.2 ++ "],\n" ++ tableEntries (next :: entries) =
        fed ((entryLine entry ++ ",") :: entryLines (next :: entries))
      rw [ih, fed_cons, entryLine]
      simp [String.append_assoc]

theorem table_eq (name : String) (entries : List (String × String)) :
    table name entries = fed (tableLines name entries) := by
  show "export const " ++ name ++ " = new Map([\n" ++ tableEntries entries ++ "]);\n" = _
  rw [tableEntries_eq, tableLines, fed_cons, fed_append, fed_cons]
  simp [fed, String.append_assoc]

/-- The text of an index has these lines, and no others. -/
theorem indexText_eq (imports : List String) (types parsers : List (String × String)) :
    indexText imports types parsers = fed (indexLines imports types parsers) := by
  have himports : String.join (imports.map fun path => "require('" ++ path ++ "');\n") =
      fed (imports.map importLine) := by
    rw [fed, List.map_map]
    congr 1
    refine List.map_congr_left fun path _ => ?_
    simp [importLine, String.append_assoc]
  rw [indexText, himports, table_eq, table_eq, indexLines]
  simp only [fed_append, fed_cons]
  simp [fed, generatedMarker, String.append_assoc]

theorem startsWith_importLine (path : String) : startsWith "require(" (importLine path) = true :=
  startsWith_iff.2 ⟨"'".toList ++ path.toList ++ "');".toList, by simp [importLine]⟩

theorem head?_importLine (path : String) : (importLine path).toList.head? = some 'r' := by
  simp [importLine]

/-- The line of an entry, with or without a comma. -/
theorem exists_of_mem_entryLines {entries : List (String × String)} {line : String}
    (h : line ∈ entryLines entries) : ∃ rest, line = "  ['" ++ rest := by
  induction entries with
  | nil => cases h
  | cons entry entries ih =>
    have hentry : ∀ ending, entryLine entry ++ ending =
        "  ['" ++ (entry.1 ++ "', " ++ entry.2 ++ "]" ++ ending) := fun ending => by
      simp [entryLine, String.append_assoc]
    cases entries with
    | nil =>
      obtain rfl := List.mem_singleton.1 h
      exact ⟨_, by simpa using hentry ""⟩
    | cons next entries =>
      rcases List.mem_cons.1 h with rfl | h
      · exact ⟨_, hentry ","⟩
      · exact ih h

/-- The lines of a class to which none of the lines around imports and entries belongs. -/
theorem filter_indexLines {p : String → Bool}
    (hmarker : p "// Generated by protojs. DO NOT EDIT!" = false) (hblank : p "" = false)
    (hend : p "]);" = false)
    (hheader : ∀ name, p ("export const " ++ name ++ " = new Map([") = false)
    (imports : List String) (types parsers : List (String × String)) :
    (indexLines imports types parsers).filter p = (imports.map importLine).filter p ++
      ((entryLines types).filter p ++ (entryLines parsers).filter p) := by
  have htable : ∀ name entries,
      (tableLines name entries).filter p = (entryLines entries).filter p := by
    intro name entries
    simp [tableLines, hheader, hend]
  simp only [indexLines, List.filter_append, htable]
  simp [hmarker, hblank]

/-- Only the lines of the imports begin like one. -/
theorem filter_require_indexLines (imports : List String) (types parsers : List (String × String)) :
    (indexLines imports types parsers).filter (startsWith "require(") = imports.map importLine := by
  have himports : (imports.map importLine).filter (startsWith "require(") =
      imports.map importLine := by
    refine List.filter_eq_self.2 fun line hline => ?_
    obtain ⟨path, -, rfl⟩ := List.mem_map.1 hline
    exact startsWith_importLine path
  have hentries : ∀ entries, (entryLines entries).filter (startsWith "require(") = [] := by
    intro entries
    refine List.filter_eq_nil_iff.2 fun line hline => ?_
    obtain ⟨rest, rfl⟩ := exists_of_mem_entryLines hline
    rw [startsWith_eq_false (c := 'r') (d := ' ') rfl (by simp) (by decide)]
    exact Bool.false_ne_true
  have hheader : ∀ name,
      startsWith "require(" ("export const " ++ name ++ " = new Map([") = false :=
    fun name => startsWith_eq_false (c := 'r') (d := 'e') rfl (by simp) (by decide)
  rw [filter_indexLines (by decide) (by decide) (by decide) hheader, himports, hentries, hentries,
    List.append_nil, List.append_nil]

/-- Only the lines of the entries of both tables begin like one. -/
theorem filter_entry_indexLines (imports : List String) (types parsers : List (String × String)) :
    (indexLines imports types parsers).filter (startsWith "  [") =
      entryLines types ++ entryLines parsers := by
  have himports : (imports.map importLine).filter (startsWith "  [") = [] := by
    refine List.filter_eq_nil_iff.2 fun line hline => ?_
    obtain ⟨path, -, rfl⟩ := List.mem_map.1 hline
    rw [startsWith_eq_false (c := ' ') rfl (head?_importLine path) (by decide)]
    exact Bool.false_ne_true
  have hentries : ∀ entries,
      (entryLines entries).filter (startsWith "  [") = entryLines entries := by
    intro entries
    refine List.filter_eq_self.2 fun line hline => ?_
    obtain ⟨rest, rfl⟩ := exists_of_mem_entryLines hline
    exact startsWith_iff.2 ⟨"'".toList ++ rest.toList, by simp⟩
  have hheader : ∀ name, startsWith "  [" ("export const " ++ name ++ " = new Map([") = false :=
    fun name => startsWith_eq_false (c := ' ') (d := 'e') rfl (by simp) (by decide)
  rw [filter_indexLines (by decide) (by decide) (by decide) hheader, himports, hentries, hentries,
    List.nil_append]

end FileSet

end Protogen.Schema
