import Mathlib.Data.List.Nodup
import Protogen.Json.Parser
import Protogen.Proofs.Failure

/-!
# Reading JSON texts

* `addName` adds a name to a list of names without repeats, `foldl_addName` several of them.
* `Json.nodup_names_of_parse`: an object that is read has no name twice.
* `Json.parse_replicate`: a text is too deep where too many lists are opened.
-/

set_option autoImplicit false

namespace Protogen

/-! ## Lists of names -/

/-- Names with one behind them, unless it is among them. -/
def addName (names : List String) (name : String) : List String :=
  if name ∈ names then names else names ++ [name]

section

variable {name other : String} {names : List String}

theorem addName_cons_self (name : String) (names : List String) :
    addName (name :: names) name = name :: names :=
  if_pos (List.mem_cons_self ..)

theorem addName_cons (h : name ≠ other) (names : List String) :
    addName (other :: names) name = other :: addName names name := by
  unfold addName
  by_cases hmem : name ∈ names
  · rw [if_pos hmem, if_pos (List.mem_cons_of_mem _ hmem)]
  · rw [if_neg hmem, if_neg (by simp [h, hmem]), List.cons_append]

theorem nodup_addName (h : names.Nodup) : (addName names name).Nodup := by
  unfold addName
  split
  · exact h
  · rename_i hname
    rw [← List.concat_eq_append]
    exact h.concat hname

/-- Names that are added one after the other come in the order of their first appearance. -/
theorem foldl_addName (names added : List String) :
    added.foldl addName names = names ++ (added.filter fun name => name ∉ names).eraseDups := by
  induction added generalizing names with
  | nil => exact (List.append_nil _).symm
  | cons name added ih =>
    rw [List.foldl_cons, ih]
    unfold addName
    by_cases hmem : name ∈ names
    · rw [if_pos hmem, List.filter_cons_of_neg (by simpa using hmem)]
    · rw [if_neg hmem, List.filter_cons_of_pos (by simpa using hmem), List.eraseDups_cons,
        List.filter_filter, List.append_assoc, List.singleton_append]
      have hkept : ∀ other, decide (other ∉ names ++ [name]) =
          (!(other == name) && decide (other ∉ names)) := by
        intro other
        simp [Bool.beq_eq_decide_eq, and_comm]
      simp only [hkept]

end

/-! ## The names of an object -/

namespace Json

variable {name : String} {v : Json} {members : List (String × Json)}

theorem map_fst_setMember (name : String) (v : Json) (members : List (String × Json)) :
    (setMember name v members).map Prod.fst = addName (members.map Prod.fst) name := by
  induction members with
  | nil => rfl
  | cons m members ih =>
    rw [setMember, List.map_cons]
    by_cases hname : m.1 = name
    · rw [if_pos (by simpa using hname), List.map_cons, hname, addName_cons_self]
    · rw [if_neg (by simpa using hname), List.map_cons, ih, addName_cons (Ne.symm hname)]

theorem nodup_names_foldl_setMember {given : List (String × Json)}
    (h : (members.map Prod.fst).Nodup) :
    ((given.foldl (fun found m => setMember m.1 m.2 found) members).map Prod.fst).Nodup := by
  induction given generalizing members with
  | nil => exact h
  | cons m given ih => exact ih (map_fst_setMember .. ▸ nodup_addName h)

theorem word?_ne_obj (text rest : List Char) : word? text ≠ some (.obj members, rest) := by
  intro h
  obtain ⟨w, hw, hfound⟩ := List.exists_of_findSome?_eq_some h
  have hwords : ∀ w ∈ words, w.2 ≠ .obj members := by simp [words]
  split at hfound
  · exact hwords w hw (congrArg Prod.fst (Option.some.inj hfound))
  · cases hfound

theorem number_ne_obj (text rest : List Char) : number text ≠ .ok (.obj members, rest) := by
  intro h
  unfold number at h
  grind

theorem nodup_names_of_value {fuel room : Nat} {text rest : List Char}
    (h : value fuel room text = .ok (.obj members, rest)) : (members.map Prod.fst).Nodup := by
  cases fuel with
  | zero => cases h
  | succ fuel =>
    unfold value at h
    split at h
    · obtain ⟨r, -, hr⟩ := map_eq_ok.1 h
      cases hr
    · split at h
      · cases h
      · split at h
        · cases h
          exact List.nodup_nil
        · obtain ⟨r, -, hr⟩ := map_eq_ok.1 h
          cases hr
          exact nodup_names_foldl_setMember List.nodup_nil
    · split at h
      · cases h
      · split at h
        · cases h
        · obtain ⟨r, -, hr⟩ := map_eq_ok.1 h
          cases hr
    · split at h
      · rename_i found hword
        cases h
        exact absurd hword (word?_ne_obj _ _)
      · exact absurd h (number_ne_obj _ _)

/-- An object that is read has no name twice. -/
theorem nodup_names_of_parse {text : String} (h : parse text = .ok (.obj members)) :
    (members.map Prod.fst).Nodup := by
  unfold parse at h
  dsimp only at h
  split at h
  · cases h
  · split at h
    · cases h
    · rename_i found rest hvalue
      split at h
      · cases h
        exact nodup_names_of_value hvalue
      · cases h

/-! ## Texts that are too deep -/

theorem skipSpace_replicate (depth : Nat) :
    skipSpace (List.replicate depth '[') = List.replicate depth '[' := by
  cases depth with
  | zero => rfl
  | succ depth => exact List.dropWhile_cons_of_neg (by decide)

theorem value_replicate {fuel room depth : Nat} (hroom : room < depth) (hfuel : 2 * room < fuel) :
    value fuel room (List.replicate depth '[') = .error (.tooDeep true) := by
  induction room generalizing fuel depth with
  | zero =>
    obtain ⟨fuel, rfl⟩ : ∃ more, fuel = more + 1 := ⟨fuel - 1, by omega⟩
    obtain ⟨depth, rfl⟩ : ∃ more, depth = more + 1 := ⟨depth - 1, by omega⟩
    rw [List.replicate_succ]
    rfl
  | succ room ih =>
    obtain ⟨fuel, rfl⟩ : ∃ more, fuel = more + 2 := ⟨fuel - 2, by omega⟩
    obtain ⟨depth, rfl⟩ : ∃ more, depth = more + 2 := ⟨depth - 2, by omega⟩
    have hinner : value fuel room (List.replicate (depth + 1) '[') = .error (.tooDeep true) :=
      ih (by omega) (by omega)
    have hitems : items (fuel + 1) room (List.replicate (depth + 1) '[') =
        .error (.tooDeep true) := by
      rw [items, hinner]
      rfl
    rw [List.replicate_succ, value, skipSpace_replicate, Nat.add_sub_cancel,
      if_neg (by simp)]
    show (items (fuel + 1) room (List.replicate (depth + 1) '[')).map _ = _
    rw [hitems]
    rfl

/-- A text is too deep if more lists are opened at its beginning than may be inside of each other. -/
theorem parse_replicate {depth : Nat} (h : depthLimit < depth) :
    parse (String.ofList (List.replicate depth '[')) = .error (.tooDeep true) := by
  have hvalue : value (2 * (List.replicate depth '[').length + 1) depthLimit
      (skipSpace (List.replicate depth '[')) = .error (.tooDeep true) := by
    rw [skipSpace_replicate]
    exact value_replicate h (by rw [List.length_replicate]; omega)
  have hhead : ((List.replicate depth '[').head? == some '\ufeff') = false := by
    cases depth with
    | zero => rfl
    | succ depth => rfl
  unfold parse
  dsimp only
  rw [String.toList_ofList, hhead, hvalue]
  rfl

end Json

end Protogen
