import Protogen.Proofs.Import.Fallback

/-!
# Modules that keep apart

A directory that two patterns accept begins as both of them end. So the last name of the pattern
with the shorter overlap occurs in the other pattern, and where neither pattern has the last name of
the other one, no directory ends up inside both.

* `Pattern.IsApart` and `Module.IsApart` say this of two patterns and of two modules, by their names
  alone; `Module.IsApart.provides` is what comes of it for references.
* `SameButOrder` relates two lists of modules in which at most two of them stand in another order to
  each other; by `providing_of_sameButOrder` this order does not count where one of the two does not
  provide a reference.
* `predefined_disjoint` is this for the modules that are always known.
-/

set_option autoImplicit false

namespace Protogen.Import

variable {modules modules' : List Module} {a b : Module} {reference : String}

/-! ## Patterns -/

namespace Pattern

variable {p q : Pattern} {directory : List String} {n k : Nat}

/-- Neither of two patterns has the last name of the other one. -/
def IsApart (p q : Pattern) : Prop :=
  (∀ name ∈ p.elements.getLast?, name ∉ q.elements) ∧
    ∀ name ∈ q.elements.getLast?, name ∉ p.elements

instance (p q : Pattern) : Decidable (p.IsApart q) := inferInstanceAs (Decidable (_ ∧ _))

theorem IsApart.symm (h : p.IsApart q) : q.IsApart p := ⟨h.2, h.1⟩

/-- The last name of a pattern is the last one of its overlap with a directory. -/
theorem IsOverlap.getLast?_take (h : p.IsOverlap directory n) :
    (directory.take n).getLast? = p.elements.getLast? := by
  have hpositive := h.positive
  have hwithin := h.within
  rw [h.agree, List.getLast?_drop, if_neg (by omega)]

/-- Of two overlaps with one directory, the longer one has the last name of the shorter. -/
theorem IsOverlap.last_mem (hp : p.IsOverlap directory n) (hq : q.IsOverlap directory k)
    (hle : n ≤ k) : ∃ name ∈ p.elements.getLast?, name ∈ q.elements := by
  have hpositive := hp.positive
  have hwithin := hp.within
  have hne : directory.take n ≠ [] := by
    rw [← List.length_pos_iff, List.length_take]
    omega
  obtain ⟨name, hname⟩ := Option.isSome_iff_exists.1 (List.getLast?_isSome.2 hne)
  have hmem : name ∈ directory.take k :=
    (List.take_subset_take_left directory hle) (List.mem_of_getLast? hname)
  rw [hq.agree] at hmem
  exact ⟨name, hp.getLast?_take ▸ hname, List.mem_of_mem_drop hmem⟩

theorem IsApart.accepts (h : p.IsApart q) (hp : p.accepts directory = true) :
    q.accepts directory = false := by
  obtain ⟨n, hn⟩ := accepts_eq_true_iff.1 hp
  rw [Bool.eq_false_iff]
  intro hq
  obtain ⟨k, hk⟩ := accepts_eq_true_iff.1 hq
  rcases Nat.le_total n k with hle | hle
  · obtain ⟨name, hlast, hmem⟩ := hn.last_mem hk hle
    exact h.1 name hlast hmem
  · obtain ⟨name, hlast, hmem⟩ := hk.last_mem hn hle
    exact h.2 name hlast hmem

end Pattern

/-! ## Modules -/

/-- All patterns of one module are apart from all patterns of the other. -/
def Module.IsApart (a b : Module) : Prop :=
  ∀ p ∈ a.patterns, ∀ q ∈ b.patterns, p.IsApart q

instance (a b : Module) : Decidable (a.IsApart b) :=
  inferInstanceAs (Decidable (∀ p ∈ a.patterns, ∀ q ∈ b.patterns, p.IsApart q))

/-- No reference is provided by two modules that are apart. -/
theorem Module.IsApart.provides (h : a.IsApart b) (reference : String) :
    a.provides reference = false ∨ b.provides reference = false := by
  cases ha : a.provides reference with
  | false => exact .inl rfl
  | true =>
    obtain ⟨p, hp, haccepts⟩ := Module.provides_iff.1 ha
    exact .inr (Module.provides_eq_false_iff.2 fun q hq => (h p hp q hq).accepts haccepts)

/-! ## Their order -/

/-- The modules that provide a reference, in order. -/
def providing (modules : List Module) (reference : String) : List Module :=
  modules.filter (·.provides reference)

theorem firstProviding_eq_head? (modules : List Module) (reference : String) :
    firstProviding modules reference = (providing modules reference).head? :=
  List.head?_filter.symm

/-- Lists of modules that are the same when either of two modules is left out: every other pair of
modules stands in the same order in both. -/
structure SameButOrder (a b : Module) (modules modules' : List Module) : Prop where
  withoutFirst : modules.filter (· ≠ a) = modules'.filter (· ≠ a)
  withoutSecond : modules.filter (· ≠ b) = modules'.filter (· ≠ b)

theorem sameButOrder_exchange (before after : List Module) :
    SameButOrder a b (before ++ a :: b :: after) (before ++ b :: a :: after) := by
  by_cases h : a = b
  · subst h
    exact ⟨rfl, rfl⟩
  · constructor <;> simp [h, Ne.symm h]

/-- A module that does not provide a reference can be left out. -/
theorem providing_filter_ne (h : a.provides reference = false) (modules : List Module) :
    providing (modules.filter (· ≠ a)) reference = providing modules reference := by
  unfold providing
  rw [List.filter_filter]
  refine List.filter_congr fun m _ => ?_
  by_cases hm : m = a <;> simp [hm, h]

/-- The order of two modules does not count where only one of them provides a reference. -/
theorem providing_of_sameButOrder (h : SameButOrder a b modules modules')
    (hone : a.provides reference = false ∨ b.provides reference = false) :
    providing modules reference = providing modules' reference := by
  rcases hone with ha | hb
  · rw [← providing_filter_ne ha modules, h.withoutFirst, providing_filter_ne ha]
  · rw [← providing_filter_ne hb modules, h.withoutSecond, providing_filter_ne hb]

/-- Nor does it over other modules that do not provide the reference. -/
theorem providing_exchange (before after : List Module) {between : List Module}
    (hbetween : ∀ m ∈ between, m.provides reference = false)
    (hone : a.provides reference = false ∨ b.provides reference = false) :
    providing (before ++ a :: (between ++ b :: after)) reference =
      providing (before ++ b :: (between ++ a :: after)) reference := by
  have hnone : between.filter (·.provides reference) = [] :=
    List.filter_eq_nil_iff.2 fun m hm => by simp [hbetween m hm]
  unfold providing
  rcases hone with h | h <;> simp [List.filter_cons, hnone, h]

/-! ## The modules that are always known -/

theorem spineWeb_isApart_spineUsers : spineWeb.IsApart spineUsers := by decide +kernel

/-- At most one of the two modules that are always known provides a reference. So their order to each
other does not count in any list of modules; if they change places, it counts only where one of the
modules that they pass provides the reference. -/
theorem predefined_disjoint (reference : String) :
    ¬(spineWeb.provides reference = true ∧ spineUsers.provides reference = true) ∧
      (∀ modules modules', SameButOrder spineWeb spineUsers modules modules' →
        firstProviding modules reference = firstProviding modules' reference) ∧
      ∀ before between after, (∀ m ∈ between, m.provides reference = false) →
        firstProviding (before ++ spineWeb :: (between ++ spineUsers :: after)) reference =
          firstProviding (before ++ spineUsers :: (between ++ spineWeb :: after)) reference := by
  have hone := spineWeb_isApart_spineUsers.provides reference
  refine ⟨?_, fun modules modules' h => ?_, fun before between after h => ?_⟩
  · rintro ⟨hweb, husers⟩
    rw [hweb, husers] at hone
    rcases hone with h | h <;> cases h
  · rw [firstProviding_eq_head?, firstProviding_eq_head?, providing_of_sameButOrder h hone]
  · rw [firstProviding_eq_head?, firstProviding_eq_head?, providing_exchange before after h hone]

/-- A module with a part of what one of the two provides. -/
def netModule : Module := ⟨"net", [withNested ["spine", "net"]]⟩

/-- Neither behind this module nor past it does the order count for a reference to a user type. It
does past it for a reference that both provide. -/
theorem predefined_disjoint_net :
    (SameButOrder spineWeb spineUsers [netModule, spineWeb, spineUsers]
        [netModule, spineUsers, spineWeb] ∧
      firstProviding [netModule, spineWeb, spineUsers] "../users/a/b/user_pb.js" =
        firstProviding [netModule, spineUsers, spineWeb] "../users/a/b/user_pb.js") ∧
    ((∀ m ∈ [netModule], m.provides "../users/a/b/user_pb.js" = false) ∧
      firstProviding [spineWeb, netModule, spineUsers] "../users/a/b/user_pb.js" =
        firstProviding [spineUsers, netModule, spineWeb] "../users/a/b/user_pb.js") ∧
    spineUsers.provides "../users/a/b/user_pb.js" = true ∧
    firstProviding [spineWeb, netModule, spineUsers] "./net/a_pb.js" = some spineWeb ∧
    firstProviding [spineUsers, netModule, spineWeb] "./net/a_pb.js" = some netModule := by
  obtain ⟨-, horder, hexchange⟩ := predefined_disjoint "../users/a/b/user_pb.js"
  have hsame : SameButOrder spineWeb spineUsers [netModule, spineWeb, spineUsers]
      [netModule, spineUsers, spineWeb] := sameButOrder_exchange [netModule] []
  have hbetween : ∀ m ∈ [netModule], m.provides "../users/a/b/user_pb.js" = false := by
    decide +kernel
  exact ⟨⟨hsame, horder _ _ hsame⟩, ⟨hbetween, hexchange [] [netModule] [] hbetween⟩,
    by decide +kernel, by decide +kernel, by decide +kernel⟩

end Protogen.Import
