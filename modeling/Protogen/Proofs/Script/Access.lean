import Protogen.Proofs.Script.RoundTrip

/-!
# What lines read

* `Phrase.accesses` are the places where a line reads raw values.
* `exists_access_of_readTest`: a condition that begins with a property of an object, as it is
  written, reads such a property, and by a name that is an identifier.
-/

set_option autoImplicit false

namespace Protogen.Script

open Text

/-- The place that a comparison reads. -/
def Comparison.access : Comparison → Access
  | .isNull value => value
  | .isDefined value => value
  | .isNotNull value => value
  | .owns object => object

/-- The places that a test reads. -/
def Test.accesses : Test → List Access
  | .one comparison => [comparison.access]
  | .both first second => [first.access, second.access]

/-- The places that a header reads. -/
def Header.accesses : Header → List Access
  | .when test => test.accesses
  | .forEach list _ => [list]
  | .forIn object => [object]
  | .otherwise test _ => test.accesses

/-- The places that a line reads. -/
def Phrase.accesses : Phrase → List Access
  | .opening header => header.accesses
  | .simple (.bind _ _ raw) => [raw]
  | _ => []

/-! ## Conditions on a property -/

/-- What a text begins with does not reach into what is behind another character. -/
theorem prefix_of_prefix_append {start before rest : List Char} {c : Char} (hc : c ∉ start)
    (h : start <+: before ++ c :: rest) : start <+: before := by
  rcases List.prefix_or_prefix_of_prefix h (List.prefix_append before (c :: rest)) with h | hbefore
  · exact h
  · obtain ⟨more, rfl⟩ := hbefore
    rw [List.prefix_append_right_inj] at h
    cases more with
    | nil => simp
    | cons d more =>
      obtain ⟨rfl, -⟩ := List.cons_prefix_cons.1 h
      exact absurd (by simp) hc

variable {object : String} {text : List Char}

/-- Whether an access reads a property of an object, or what the property holds under the name that
is being visited, and the name of the property is an identifier. -/
def Access.IsOf (object : String) (a : Access) : Prop :=
  ∃ key : String, isIdentifier key.toList = true ∧ (a = .property object key ∨ a = .entry object key)

theorem isOf_of_readAccess {a : Access} (hobject : isIdentifier object.toList = true)
    (hbegins : (object ++ ".").toList <+: text) (h : readAccess text = some a) : a.IsOf object := by
  obtain ⟨hwf, rfl⟩ := of_readAccess h
  have hdot : isIdentifierChar '.' = false := by decide
  have heq : ∀ (name : String) (rest : List Char), isIdentifier name.toList = true →
      (object ++ ".").toList <+: name.toList ++ '.' :: rest → name = object := by
    rintro name rest hname ⟨more, hmore⟩
    have htext : object.toList ++ '.' :: more = name.toList ++ '.' :: rest := by simpa using hmore
    have hleft := takeIdentifier_append ('.' :: more) hobject (by simp [hdot])
    have hright := takeIdentifier_append ('.' :: rest) hname (by simp [hdot])
    rw [htext, hright] at hleft
    exact String.toList_inj.1 (Prod.mk.inj (Option.some.inj hleft)).1
  cases a with
  | var name =>
    have hmem : '.' ∈ name.toList := hbegins.subset (by simp)
    exact absurd hmem (not_mem_of_isIdentifier hwf hdot)
  | property other key =>
    simp only [Access.isWellFormed, Bool.and_eq_true] at hwf
    obtain rfl := heq other key.toList hwf.1 (by simpa [Access.text] using hbegins)
    exact ⟨key, hwf.2, .inl rfl⟩
  | entry other key =>
    simp only [Access.isWellFormed, Bool.and_eq_true] at hwf
    obtain rfl := heq other (key.toList ++ entryText.toList) hwf.1
      (by simpa [Access.text] using hbegins)
    exact ⟨key, hwf.2, .inr rfl⟩

theorem not_mem_start (hobject : isIdentifier object.toList = true) :
    ' ' ∉ (object ++ ".").toList := by
  have hname : ' ' ∉ object.toList := not_mem_of_isIdentifier hobject (by decide)
  simp [hname]

/-- A comparison that begins with a property of an object is one of its value: what is asked of it
stands behind a blank. -/
theorem isOf_of_readComparison {c : Comparison} (hobject : isIdentifier object.toList = true)
    (hhead : object.toList.head? ≠ some 'O') (hbegins : (object ++ ".").toList <+: text)
    (h : readComparison text = some c) : c.access.IsOf object := by
  have howns : dropStart? ownsText.toList text = none := by
    obtain ⟨first, rest, hfirst⟩ := List.exists_cons_of_ne_nil (ne_nil_of_isIdentifier hobject)
    obtain ⟨more, rfl⟩ := hbegins
    have hne : 'O' ≠ first := by
      rintro rfl
      exact hhead (by rw [hfirst]; rfl)
    simp [hfirst, ownsText, dropStart?, hne]
  have hvalue : ∀ {value ending : List Char} {a : Access}, ending.head? = some ' ' →
      dropEnd? ending text = some value → readAccess value = some a → a.IsOf object := by
    intro value ending a hending hdrop ha
    obtain ⟨rest, rfl⟩ := List.head?_eq_some_iff.1 hending
    rw [dropEnd?_eq_some_iff.1 hdrop] at hbegins
    exact isOf_of_readAccess hobject (prefix_of_prefix_append (not_mem_start hobject) hbegins) ha
  rw [readComparison, howns] at h
  dsimp only at h
  split at h
  · rename_i value hnull
    obtain ⟨a, ha, rfl⟩ := Option.map_eq_some_iff.1 h
    exact hvalue (by decide) hnull ha
  · split at h
    · rename_i value hdefined
      obtain ⟨a, ha, rfl⟩ := Option.map_eq_some_iff.1 h
      exact hvalue (by decide) hdefined ha
    · obtain ⟨value, hnotNull, h⟩ := Option.bind_eq_some_iff.1 h
      obtain ⟨a, ha, rfl⟩ := Option.map_eq_some_iff.1 h
      exact hvalue (by decide) hnotNull ha

/-- A test that begins with a property of an object, as it is written, reads one. -/
theorem exists_access_of_readTest {t : Test} (hobject : isIdentifier object.toList = true)
    (hhead : object.toList.head? ≠ some 'O') (hbegins : (object ++ ".").toList <+: text)
    (h : readTest text = some t) : ∃ a ∈ t.accesses, a.IsOf object := by
  unfold readTest at h
  split at h
  · rename_i first second hcut
    obtain ⟨one, hone, h⟩ := Option.bind_eq_some_iff.1 h
    obtain ⟨other, -, h⟩ := Option.bind_eq_some_iff.1 h
    cases h
    have hboth : bothText.toList = ' ' :: "&& ".toList := by decide
    rw [eq_of_cut? hcut, hboth, List.append_assoc] at hbegins
    have hfirst := prefix_of_prefix_append (not_mem_start hobject) hbegins
    exact ⟨one.access, by simp [Test.accesses], isOf_of_readComparison hobject hhead hfirst hone⟩
  · obtain ⟨one, hone, rfl⟩ := Option.map_eq_some_iff.1 h
    exact ⟨one.access, by simp [Test.accesses], isOf_of_readComparison hobject hhead hbegins hone⟩

/-- So does the line that opens the block behind such a condition, if it can be read. -/
theorem exists_access_of_readPhrase {condition : String} {phrase : Phrase}
    (hobject : isIdentifier object.toList = true) (hhead : object.toList.head? ≠ some 'O')
    (hbegins : (object ++ ".").toList <+: condition.toList)
    (h : readPhrase ("if (" ++ condition ++ ")" ++ " \x7b").toList = some phrase) :
    ∃ a ∈ phrase.accesses, a.IsOf object := by
  have hname : beginsLikeName ("if (" ++ condition ++ ")").toList = true := by
    simp [beginsLikeName, isIdentifierChar]
  rw [readPhrase_opening hname] at h
  obtain ⟨header, hheader, rfl⟩ := Option.map_eq_some_iff.1 h
  have htext : ("if (" ++ condition ++ ")").toList =
      ifText.toList ++ (condition.toList ++ [')']) := by
    simp [ifText]
  rw [htext, readHeader, dropStart?_append] at hheader
  simp only [dropEnd?_append, Option.bind_eq_bind, Option.bind_some] at hheader
  obtain ⟨test, htest, hheader⟩ := Option.bind_eq_some_iff.1 hheader
  cases hheader
  exact exists_access_of_readTest hobject hhead hbegins htest

end Protogen.Script
