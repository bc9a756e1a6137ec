import Protogen.Proofs.Text.Upper

/-!
# Names in camel case

* `camelChars_of_splitOn` reads the conversion off the pieces between underscores: all of them but
  the first are capitalized.
* In Pascal case the first one is, too (`toList_pascalCase`). Each piece is converted on its own
  (`camelChars_append`), so that empty pieces do not matter.
* `splits_at_underscores` says so for both cases, and that neither can be applied twice.
* `isDeclarable` are the names of fields in a schema. In camel case they have no characters but letters
  and digits, and their first one is a digit if it stands behind underscores only
  (`head?_camelChars`).
-/

set_option autoImplicit false

namespace Protogen.Naming

variable {name : String} {raised : Bool} {cs first : List Char} {rest : List (List Char)}

/-! ## Capitalized texts -/

@[simp]
theorem capitalize_nil : capitalize [] = [] := rfl

theorem capitalize_append (h : first ≠ []) (cs : List Char) :
    capitalize (first ++ cs) = capitalize first ++ cs := by
  cases first with
  | nil => exact absurd rfl h
  | cons c first => simp [capitalize]

theorem capitalize_capitalize (cs : List Char) : capitalize (capitalize cs) = capitalize cs := by
  cases cs with
  | nil => rfl
  | cons c cs =>
    obtain ⟨d, more, hupper⟩ := List.exists_cons_of_ne_nil (Text.upper_ne_nil c)
    have hd : Text.upper d = [d] := Text.upper_of_mem_upper (c := c) (by simp [hupper])
    simp [capitalize, hupper, hd]

/-- The first of the pieces that are not empty has been capitalized. -/
theorem capitalize_flatMap (pieces : List (List Char)) :
    capitalize (pieces.flatMap capitalize) = pieces.flatMap capitalize := by
  induction pieces with
  | nil => rfl
  | cons piece pieces ih =>
    rw [List.flatMap_cons]
    by_cases hpiece : capitalize piece = []
    · rw [hpiece, List.nil_append, ih]
    · rw [capitalize_append hpiece, capitalize_capitalize]

theorem underscore_not_mem_capitalize (h : '_' ∉ cs) : '_' ∉ capitalize cs := by
  cases cs with
  | nil => exact h
  | cons c cs =>
    rw [List.mem_cons, not_or] at h
    simp only [capitalize, List.mem_append, not_or]
    exact ⟨Text.underscore_not_mem_upper fun heq => h.1 heq.symm, h.2⟩

/-! ## Pieces between underscores -/

@[simp]
theorem camelChars_nil (raised : Bool) : camelChars raised [] = [] := by
  simp [camelChars]

@[simp]
theorem camelChars_underscore (raised : Bool) (cs : List Char) :
    camelChars raised ('_' :: cs) = camelChars true cs := by
  simp [camelChars]

theorem camelChars_cons {c : Char} (h : c ≠ '_') (raised : Bool) (cs : List Char) :
    camelChars raised (c :: cs) =
      (if raised then Text.upper c else [c]) ++ camelChars false cs := by
  simp [camelChars, h]

/-- The pieces behind the first one are capitalized; the first one is if the name is behind an
underscore itself. -/
theorem camelChars_of_splitOn (h : cs.splitOn '_' = first :: rest) :
    camelChars raised cs =
      (if raised then capitalize first else first) ++ rest.flatMap capitalize := by
  -- the flag is up at the start of a piece and goes down at its first character
  induction cs generalizing raised first rest with
  | nil =>
    rw [List.splitOn_nil] at h
    obtain ⟨rfl, rfl⟩ := List.cons_eq_cons.1 h
    simp [capitalize]
  | cons c cs ih =>
    obtain ⟨piece, pieces, hpieces⟩ := List.exists_cons_of_ne_nil (List.splitOn_ne_nil '_' cs)
    rw [List.splitOn_cons_eq_if_modifyHead, hpieces] at h
    by_cases hc : c = '_'
    · rw [if_pos (by simp [hc])] at h
      obtain ⟨rfl, rfl⟩ := List.cons_eq_cons.1 h
      rw [hc, camelChars_underscore, ih hpieces]
      simp [capitalize]
    · rw [if_neg (by simp [hc]), List.modifyHead_cons] at h
      obtain ⟨rfl, rfl⟩ := List.cons_eq_cons.1 h
      rw [camelChars_cons hc, ih hpieces]
      cases raised <;> simp [capitalize]

theorem underscore_not_mem_camelChars (raised : Bool) (cs : List Char) :
    '_' ∉ camelChars raised cs := by
  induction cs generalizing raised with
  | nil => simp
  | cons c cs ih =>
    by_cases hc : c = '_'
    · rw [hc, camelChars_underscore]
      exact ih true
    · rw [camelChars_cons hc, List.mem_append, not_or]
      refine ⟨?_, ih false⟩
      cases raised with
      | false => simpa using fun heq => hc heq.symm
      | true => exact Text.underscore_not_mem_upper hc

theorem camelChars_of_not_mem (h : '_' ∉ cs) : camelChars false cs = cs := by
  have hsplit : cs.splitOn '_' = [cs] := List.splitOn_eq_singleton h
  simp [camelChars_of_splitOn hsplit]

/-- A name goes on behind an underscore as if it began there. -/
theorem camelChars_append (raised : Bool) (before after : List Char) :
    camelChars raised (before ++ '_' :: after) =
      camelChars raised before ++ camelChars true after := by
  induction before generalizing raised with
  | nil => simp
  | cons c before ih =>
    by_cases hc : c = '_'
    · simp [hc, ih]
    · simp [camelChars_cons hc, ih]

theorem camelChars_replicate (n : Nat) (cs : List Char) :
    camelChars true (List.replicate n '_' ++ cs) = camelChars true cs := by
  induction n with
  | zero => rfl
  | succ n ih => simp [List.replicate_succ, ih]

/-! ## Declared names -/

/-- Whether a text can be the name of a field in a schema: letters, digits and underscores, in front
no digit. -/
def isDeclarable (name : List Char) : Bool :=
  name.all (fun c => c.isAlphanum || c == '_') && !name.isEmpty && !(name.head?.any Char.isDigit)

theorem isAlphanum_of_mem_camelChars (h : ∀ c ∈ cs, (c.isAlphanum || c == '_') = true)
    {d : Char} (hd : d ∈ camelChars raised cs) : d.isAlphanum = true := by
  induction cs generalizing raised with
  | nil => simp at hd
  | cons c cs ih =>
    have hrest : ∀ raised, d ∈ camelChars raised cs → d.isAlphanum = true :=
      fun _ hd => ih (fun c hc => h c (List.mem_cons_of_mem _ hc)) hd
    by_cases hc : c = '_'
    · rw [hc, camelChars_underscore] at hd
      exact hrest true hd
    · have halpha : c.isAlphanum = true := by simpa [hc] using h c (List.mem_cons_self ..)
      obtain ⟨u, hupper, hu, -⟩ := Text.upper_alphanum halpha
      rw [camelChars_cons hc, hupper, List.mem_append] at hd
      rcases hd with hd | hd
      · cases raised with
        | false => exact List.mem_singleton.1 hd ▸ halpha
        | true => exact List.mem_singleton.1 hd ▸ hu
      · exact hrest false hd

/-- The character behind the underscores in front of a name comes first, and stays a digit if it is
one. -/
theorem head?_camelChars (raised : Bool) (h : ∀ c ∈ cs, (c.isAlphanum || c == '_') = true) :
    (camelChars raised cs).head?.map Char.isDigit =
      (cs.dropWhile (· == '_')).head?.map Char.isDigit := by
  induction cs generalizing raised with
  | nil => simp
  | cons c cs ih =>
    by_cases hc : c = '_'
    · rw [hc, camelChars_underscore, ih true fun c hc => h c (List.mem_cons_of_mem _ hc)]
      simp
    · have halpha : c.isAlphanum = true := by simpa [hc] using h c (List.mem_cons_self ..)
      obtain ⟨u, hupper, -, hdigit⟩ := Text.upper_alphanum halpha
      rw [camelChars_cons hc, hupper]
      cases raised <;> simp [hc, hdigit]

/-! ## Both cases -/

/-- A text with its first character in upper case. -/
def capitalized (piece : String) : String := String.ofList (capitalize piece.toList)

/-- Underscores in a row. -/
def underscores (n : Nat) : String := String.ofList (List.replicate n '_')

/-- In Pascal case a name is converted as if it stood behind an underscore. -/
theorem toList_pascalCase (name : String) :
    (pascalCase name).toList = camelChars true name.toList := by
  obtain ⟨first, rest, hsplit⟩ :=
    List.exists_cons_of_ne_nil (List.splitOn_ne_nil '_' name.toList)
  rw [pascalCase, String.toList_ofList, camelChars_of_splitOn hsplit, camelChars_of_splitOn hsplit]
  by_cases hfirst : first = []
  · simp [hfirst, capitalize_flatMap]
  · simp [capitalize_append hfirst]

theorem toList_join_capitalized (pieces : List (List Char)) :
    (String.join ((pieces.map String.ofList).map capitalized)).toList =
      pieces.flatMap capitalize := by
  simp [String.toList_join, List.flatMap_map, capitalized]

theorem camelCase_eq_join (h : name.toList.splitOn '_' = first :: rest) :
    camelCase name =
      String.join (String.ofList first :: (rest.map String.ofList).map capitalized) := by
  rw [← String.toList_inj, camelCase, String.toList_ofList, camelChars_of_splitOn h,
    String.join_cons, String.toList_append, toList_join_capitalized]
  simp

theorem pascalCase_eq_join (name : String) :
    pascalCase name = String.join ((Text.split '_' name).map capitalized) := by
  obtain ⟨first, rest, hsplit⟩ :=
    List.exists_cons_of_ne_nil (List.splitOn_ne_nil '_' name.toList)
  rw [← String.toList_inj, toList_pascalCase, camelChars_of_splitOn hsplit, Text.split, hsplit,
    toList_join_capitalized]
  simp

theorem camelCase_camelCase (name : String) : camelCase (camelCase name) = camelCase name := by
  have hfree := underscore_not_mem_camelChars false name.toList
  simp [camelCase, camelChars_of_not_mem hfree]

theorem pascalCase_pascalCase (name : String) :
    pascalCase (pascalCase name) = pascalCase name := by
  have hfree : '_' ∉ capitalize (camelChars false name.toList) :=
    underscore_not_mem_capitalize (underscore_not_mem_camelChars false name.toList)
  simp [pascalCase, camelChars_of_not_mem hfree, capitalize_capitalize]

theorem pascalCase_underscores_append (n : Nat) (name : String) :
    pascalCase (underscores n ++ name) = pascalCase name := by
  rw [← String.toList_inj, toList_pascalCase, toList_pascalCase, String.toList_append,
    underscores, String.toList_ofList, camelChars_replicate]

/-- Underscores in a row count as one. -/
theorem pascalCase_between (before after : String) (n : Nat) :
    pascalCase (before ++ "_" ++ underscores n ++ after) =
      pascalCase (before ++ "_" ++ after) := by
  have hchars : ∀ text : String, (before ++ "_" ++ text).toList =
      before.toList ++ '_' :: text.toList := by
    intro text
    simp
  rw [← String.toList_inj, toList_pascalCase, toList_pascalCase, String.append_assoc, hchars,
    hchars, camelChars_append, camelChars_append, String.toList_append, underscores,
    String.toList_ofList, camelChars_replicate]

theorem pascalCase_append_underscores (name : String) (n : Nat) :
    pascalCase (name ++ underscores n) = pascalCase name := by
  rw [← String.toList_inj, toList_pascalCase, toList_pascalCase, String.toList_append,
    underscores, String.toList_ofList]
  cases n with
  | zero => simp
  | succ n =>
    have hend := camelChars_replicate n []
    rw [List.append_nil, camelChars_nil] at hend
    rw [List.replicate_succ, camelChars_append, hend, List.append_nil]

/-- Camel case capitalizes the pieces between underscores behind the first one, and Pascal case all
of them. Neither changes what it has made, and underscores do not matter to Pascal case at either
end of a name or beside another one. -/
theorem splits_at_underscores (name : String) :
    (∃ first rest, Text.split '_' name = first :: rest ∧
      camelCase name = String.join (first :: rest.map capitalized)) ∧
    '_' ∉ (camelCase name).toList ∧
    camelCase (camelCase name) = camelCase name ∧
    pascalCase name = String.join ((Text.split '_' name).map capitalized) ∧
    pascalCase (pascalCase name) = pascalCase name ∧
    (∀ n, pascalCase (underscores n ++ name) = pascalCase name ∧
      pascalCase (name ++ underscores n) = pascalCase name) ∧
    ∀ n rest, pascalCase (name ++ "_" ++ underscores n ++ rest) =
      pascalCase (name ++ "_" ++ rest) := by
  refine ⟨?_, ?_, camelCase_camelCase name, pascalCase_eq_join name, pascalCase_pascalCase name,
    ?_, ?_⟩
  · obtain ⟨first, rest, hsplit⟩ :=
      List.exists_cons_of_ne_nil (List.splitOn_ne_nil '_' name.toList)
    refine ⟨String.ofList first, rest.map String.ofList, ?_, camelCase_eq_join hsplit⟩
    rw [Text.split, hsplit, List.map_cons]
  · rw [camelCase, String.toList_ofList]
    exact underscore_not_mem_camelChars false name.toList
  · intro n
    exact ⟨pascalCase_underscores_append n name, pascalCase_append_underscores name n⟩
  · intro n rest
    exact pascalCase_between name rest n

example : camelCase "_ßeta__x1_" = "SSetaX1" ∧ pascalCase "ßeta_2x" = "SSeta2x" := by decide +kernel

end Protogen.Naming
