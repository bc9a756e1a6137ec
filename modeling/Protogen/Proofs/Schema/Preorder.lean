import Mathlib.Data.List.Forall2
import Mathlib.Data.List.Lex
import Protogen.Proofs.Schema.Types

/-!
# The order in which types are listed

A message has a place in its file: the positions of the messages around it, from the outside in, and
its own. The place of an enum is that of its scope, with its position there. Places are ordered as
words in a dictionary, so that a message comes before what is inside of it and this before the next
message.

* `MessageAt` and `File.EnumAt` say what is at a place and what the messages on the way to it are
  called; `File.join` joins names to a full name.
* `ListsMessages` and `File.ListsEnums` say that types are listed in the order of their places, all
  of them, with their full names.
* `exists_listsMessages` is the induction over nested messages.
* `File.lists_in_preorder` says which types of a file are listed, where and with which names.
-/

set_option autoImplicit false

namespace Protogen.Schema

/-! ## Lists whose items belong together -/

theorem exists_of_mem_left {α β : Type} {R : α → β → Prop} {as : List α} {bs : List β}
    (h : List.Forall₂ R as bs) {a : α} (ha : a ∈ as) : ∃ b ∈ bs, R a b := by
  induction h with
  | nil => cases ha
  | cons hfirst _ ih =>
    rcases List.mem_cons.1 ha with rfl | ha
    · exact ⟨_, List.mem_cons_self .., hfirst⟩
    · obtain ⟨b, hb, hab⟩ := ih ha
      exact ⟨b, List.mem_cons_of_mem _ hb, hab⟩

theorem forall₂_comp {α β γ : Type} {R : α → β → Prop} {S : β → γ → Prop} {as : List α}
    {bs : List β} {cs : List γ} (h : List.Forall₂ R as bs) (h' : List.Forall₂ S bs cs) :
    List.Forall₂ (fun a c => ∃ b, R a b ∧ S b c) as cs := by
  induction h generalizing cs with
  | nil =>
    cases h'
    exact .nil
  | cons hfirst _ ih =>
    cases h' with
    | cons hfirst' hrest' => exact .cons ⟨_, hfirst, hfirst'⟩ (ih hrest')

/-! ## Places -/

/-- The message at a place below a list of messages, with the names on the way to it, its own one
included. -/
inductive MessageAt : List (Option Message) → List Nat → List String → Message → Prop
  | here {messages : List (Option Message)} {position : Nat} {m : Message}
    (h : messages[position]? = some (some m)) : MessageAt messages [position] [shownName m.name] m
  | inside {messages : List (Option Message)} {position : Nat} {place : List Nat}
    {names : List String} {around m : Message} (h : messages[position]? = some (some around))
    (hm : MessageAt (around.messages.getD []) place names m) :
    MessageAt messages (position :: place) (shownName around.name :: names) m

/-- The message at a place of a file. -/
abbrev File.MessageAt (f : File) : List Nat → List String → Message → Prop :=
  Schema.MessageAt (f.messages.getD [])

/-- The enum at a position of a scope, with the names of the messages around it. The scope is the
place of a message; the one without positions is the file. -/
inductive File.EnumAt (f : File) : List Nat → Nat → List String → Enum → Prop
  | outermost {position : Nat} {e : Enum} (h : (f.enums.getD [])[position]? = some (some e)) :
    f.EnumAt [] position [] e
  | inside {scope : List Nat} {names : List String} {m : Message} {position : Nat} {e : Enum}
    (hm : f.MessageAt scope names m) (h : (m.enums.getD [])[position]? = some (some e)) :
    f.EnumAt scope position names e

/-- The order of enums: that of their scopes, and in one scope that of their positions. -/
def EnumBefore (place other : List Nat × Nat) : Prop :=
  place.1 < other.1 ∨ place.1 = other.1 ∧ place.2 < other.2

theorem EnumBefore.ne {place other : List Nat × Nat} (h : EnumBefore place other) :
    place ≠ other := by
  rintro rfl
  rcases h with h | ⟨-, h⟩
  · exact List.lt_irrefl _ h
  · exact Nat.lt_irrefl _ h

/-- The package of a file, if it has one, and names, joined by dots. -/
def File.join (f : File) (names : List String) : String :=
  String.intercalate "." ((if isNamed f.package then [shownName f.package] else []) ++ names)

/-- The types are those of the messages below a list, in the order of the places, each of them once
and with its full name. The names in front are those of the messages around. -/
structure ListsMessages (f : File) (around : List String) (messages : List (Option Message))
    (places : List (List Nat)) (types : List MessageType) : Prop where
  matched : List.Forall₂ (fun place t => ∃ names, MessageAt messages place names t.declaration ∧
    t.file = f ∧ t.fullName = some (f.join (around ++ names))) places types
  sorted : places.Pairwise (· < ·)
  complete : ∀ place names m, MessageAt messages place names m → place ∈ places

/-- The types are those of the enums of a file, in the order of the places, each of them once and
with its full name. -/
structure File.ListsEnums (f : File) (places : List (List Nat × Nat)) (types : List EnumType) :
    Prop where
  matched : List.Forall₂ (fun place t => ∃ names, f.EnumAt place.1 place.2 names t.declaration ∧
    t.file = f ∧ ∀ own, t.declaration.name = some own →
      t.fullName = some (f.join (names ++ [own]))) places types
  sorted : places.Pairwise EnumBefore
  complete : ∀ scope position names e, f.EnumAt scope position names e → (scope, position) ∈ places

variable {f : File} {messages : List (Option Message)} {place : List Nat} {names : List String}
  {m : Message}

/-! ### Places in front and behind -/

theorem MessageAt.place_ne_nil (h : MessageAt messages place names m) : place ≠ [] := by
  cases h <;> simp

/-- A place is the first one, inside of the first message, or one of the others moved up. -/
theorem messageAt_cons_iff {first : Message} :
    MessageAt (some first :: messages) place names m ↔
      (place = [0] ∧ names = [shownName first.name] ∧ m = first) ∨
        (∃ inner innerNames, place = 0 :: inner ∧ names = shownName first.name :: innerNames ∧
          MessageAt (first.messages.getD []) inner innerNames m) ∨
        ∃ other, place = other.modifyHead (· + 1) ∧ MessageAt messages other names m := by
  constructor
  · intro h
    cases h with
    | @here _ position _ h =>
      cases position with
      | zero =>
        cases h
        exact .inl ⟨rfl, rfl, rfl⟩
      | succ position => exact .inr (.inr ⟨[position], rfl, .here h⟩)
    | @inside _ position inner _ _ _ h hm =>
      cases position with
      | zero =>
        cases h
        exact .inr (.inl ⟨inner, _, rfl, rfl, hm⟩)
      | succ position => exact .inr (.inr ⟨position :: inner, rfl, .inside h hm⟩)
  · rintro (⟨rfl, rfl, rfl⟩ | ⟨inner, innerNames, rfl, rfl, hm⟩ | ⟨other, rfl, hm⟩)
    · exact .here rfl
    · exact .inside rfl hm
    · cases hm with
      | here h => exact .here h
      | inside h hm => exact .inside h hm

theorem modifyHead_lt_modifyHead {other : List Nat} (hplace : place ≠ []) (h : place < other) :
    place.modifyHead (· + 1) < other.modifyHead (· + 1) := by
  obtain ⟨first, place, rfl⟩ := List.exists_cons_of_ne_nil hplace
  cases other with
  | nil => exact absurd h (List.not_lt_nil _)
  | cons second other =>
    rw [List.modifyHead_cons, List.modifyHead_cons, List.cons_lt_cons_iff]
    simpa using List.cons_lt_cons_iff.1 h

/-- The places below a message and those of the messages behind it stay in order. -/
theorem pairwise_places {inner rest : List (List Nat)} (hinner : inner.Pairwise (· < ·))
    (hrest : rest.Pairwise (· < ·)) (hinnerNil : [] ∉ inner) (hrestNil : [] ∉ rest) :
    ([0] :: (inner.map (0 :: ·) ++ rest.map (List.modifyHead (· + 1)))).Pairwise
      (· < · : List Nat → List Nat → Prop) := by
  have hbehind : ∀ place, ∀ p ∈ rest.map (List.modifyHead (· + 1)), 0 :: place < p := by
    intro place p hp
    obtain ⟨other, hother, rfl⟩ := List.mem_map.1 hp
    obtain ⟨first, other, rfl⟩ := List.exists_cons_of_ne_nil (ne_of_mem_of_not_mem hother hrestNil)
    exact List.cons_lt_cons_iff.2 (.inl (Nat.succ_pos first))
  rw [List.pairwise_cons, List.pairwise_append, List.pairwise_map, List.pairwise_map]
  refine ⟨fun p hp => ?_, hinner.imp ?_, hrest.imp_of_mem ?_, ?_⟩
  · rcases List.mem_append.1 hp with hp | hp
    · obtain ⟨place, hplace, rfl⟩ := List.mem_map.1 hp
      obtain ⟨first, place, rfl⟩ :=
        List.exists_cons_of_ne_nil (ne_of_mem_of_not_mem hplace hinnerNil)
      exact List.cons_lt_cons_iff.2 (.inr ⟨rfl, List.nil_lt_cons _ _⟩)
    · exact hbehind [] p hp
  · intro place other h
    exact List.cons_lt_cons_iff.2 (.inr ⟨rfl, h⟩)
  · intro place other hplace _ h
    exact modifyHead_lt_modifyHead (ne_of_mem_of_not_mem hplace hrestNil) h
  · intro p hp q hq
    obtain ⟨place, -, rfl⟩ := List.mem_map.1 hp
    exact hbehind place q hq

/-- Places that begin like one in front of `other` are in front of `other`, unless it does too. -/
theorem append_lt_of_lt {other : List Nat} (h : place < other) (hout : ¬place <+: other)
    (tail : List Nat) : place ++ tail < other := by
  induction place generalizing other with
  | nil => exact absurd List.nil_prefix hout
  | cons first place ih =>
    cases other with
    | nil => exact absurd h (List.not_lt_nil _)
    | cons second other =>
      rw [List.cons_append, List.cons_lt_cons_iff]
      rcases List.cons_lt_cons_iff.1 h with hfirst | ⟨rfl, hrest⟩
      · exact .inl hfirst
      · exact .inr ⟨rfl, ih hrest fun hin => hout ((List.prefix_cons_inj first).2 hin)⟩

/-- Behind a place come those that begin like it and then, in order, only others. -/
theorem exists_inside_behind {after : List (List Nat)}
    (hsorted : (place :: after).Pairwise (· < ·)) : ∃ inner rest, after = inner ++ rest ∧
      (∀ p ∈ inner, place <+: p) ∧ ∀ p ∈ rest, ¬place <+: p := by
  induction after with
  | nil => exact ⟨[], [], rfl, by simp, by simp⟩
  | cons other after ih =>
    rw [List.pairwise_cons, List.pairwise_cons] at hsorted
    obtain ⟨hbehind, hother, hafter⟩ := hsorted
    by_cases hin : place <+: other
    · obtain ⟨inner, rest, rfl, hinner, hrest⟩ := ih
        (List.pairwise_cons.2 ⟨fun p hp => hbehind p (List.mem_cons_of_mem _ hp), hafter⟩)
      refine ⟨other :: inner, rest, rfl, fun p hp => ?_, hrest⟩
      rcases List.mem_cons.1 hp with rfl | hp
      · exact hin
      · exact hinner p hp
    · refine ⟨[], other :: after, rfl, by simp, fun p hp hprefix => ?_⟩
      rcases List.mem_cons.1 hp with rfl | hp
      · exact hin hprefix
      · -- what begins like `place` is in front of `other`, so not behind it
        obtain ⟨tail, rfl⟩ := hprefix
        have hfront := append_lt_of_lt (hbehind other (List.mem_cons_self ..)) hin tail
        exact lt_asymm hfront (hother _ hp)

/-- In places in order, those that begin like one of them follow it with none in between. -/
theorem exists_inside {before after : List (List Nat)}
    (hsorted : (before ++ place :: after).Pairwise (· < ·)) : ∃ inner rest, after = inner ++ rest ∧
      ∀ p ∈ before ++ place :: after, p ∈ inner ↔ place <+: p ∧ p ≠ place := by
  rw [List.pairwise_append] at hsorted
  obtain ⟨-, hafter, hfront⟩ := hsorted
  obtain ⟨inner, rest, rfl, hinner, hrest⟩ := exists_inside_behind hafter
  refine ⟨inner, rest, rfl, fun p hp => ⟨fun hin => ?_, fun ⟨hin, hne⟩ => ?_⟩⟩
  · have hlt := (List.pairwise_cons.1 hafter).1 p (List.mem_append_left _ hin)
    exact ⟨hinner p hin, hlt.ne'⟩
  · rcases List.mem_append.1 hp with hp | hp
    · exact absurd (hfront p hp place (List.mem_cons_self ..)) (List.not_lt.2 hin.le)
    · rcases List.mem_cons.1 hp with rfl | hp
      · exact absurd rfl hne
      · exact (List.mem_append.1 hp).resolve_right fun hp => hrest p hp hin

/-! ## Full names -/

/-- The names that a scope stands for. -/
inductive IsScope (f : File) : Option String → List String → Prop
  | outermost : IsScope f none []
  | message {names : List String} (h : f.join names ≠ "") : IsScope f (some (f.join names)) names

theorem File.join_append_singleton (h : f.join names ≠ "") (own : String) :
    f.join (names ++ [own]) = f.join names ++ "." ++ own := by
  unfold File.join at h ⊢
  rw [← List.append_assoc, String.intercalate_append_of_ne_nil ?_ (by simp),
    String.intercalate_singleton]
  intro hnil
  rw [hnil] at h
  exact h rfl

theorem File.join_ne_empty (f : File) (names : List String) {own : String} (hown : own ≠ "") :
    f.join (names ++ [own]) ≠ "" := by
  unfold File.join
  rw [← List.append_assoc]
  cases hparts : (if isNamed f.package then [shownName f.package] else []) ++ names with
  | nil => simpa using hown
  | cons first parts =>
    rw [String.intercalate_append_of_ne_nil (by simp) (by simp)]
    simp

theorem isNamed_iff {name : Option String} :
    isNamed name = true ↔ ∃ own, name = some own ∧ own ≠ "" := by
  cases name <;> simp [isNamed]

/-- A name in a scope is joined to the names that the scope stands for. -/
theorem IsScope.qualify_eq {scope : Option String} (h : IsScope f scope names) (own : String) :
    qualify f.package scope (some own) = some (f.join (names ++ [own])) := by
  cases h with
  | outermost =>
    rw [qualify, if_neg (by simp [isNamed]), File.join]
    split
    · simp [String.intercalate_cons_cons, shownName]
    · simp
  | message h =>
    rw [qualify, if_pos (isNamed_iff.2 ⟨_, rfl, h⟩), File.join_append_singleton h]
    rfl

/-- A message with a name is a scope for the types that it declares. -/
theorem IsScope.nested {scope : Option String} (h : IsScope f scope names) {own : String}
    (hown : own ≠ "") :
    IsScope f (qualify f.package scope (some own)) (names ++ [own]) := by
  rw [h.qualify_eq own]
  exact .message (f.join_ne_empty names hown)

/-! ## Messages in order -/

theorem ListsMessages.nil_not_mem {around : List String} {places : List (List Nat)}
    {types : List MessageType} (h : ListsMessages f around messages places types) :
    [] ∉ places := by
  intro hnil
  obtain ⟨t, -, names, hm, -⟩ := exists_of_mem_left h.matched hnil
  exact hm.place_ne_nil rfl

/-- The messages of a list are listed before those behind it: first the message itself, then what is
inside of it. -/
theorem ListsMessages.cons {around : List String} {first : Message} {inner rest : List (List Nat)}
    {t : MessageType} {nested others : List MessageType}
    (hinner : ListsMessages f (around ++ [shownName first.name]) (first.messages.getD []) inner
      nested)
    (hrest : ListsMessages f around messages rest others) (hfile : t.file = f)
    (hdeclaration : t.declaration = first)
    (hname : t.fullName = some (f.join (around ++ [shownName first.name]))) :
    ListsMessages f around (some first :: messages)
      ([0] :: (inner.map (0 :: ·) ++ rest.map (List.modifyHead (· + 1))))
      (t :: (nested ++ others)) := by
  refine ⟨.cons ?_ (List.rel_append ?_ ?_), ?_, fun place names m hm => ?_⟩
  · exact ⟨_, hdeclaration ▸ .here rfl, hfile, hname⟩
  · rw [List.forall₂_map_left_iff]
    refine hinner.matched.imp fun place t ⟨names, hm, hfile, hname⟩ => ?_
    exact ⟨_, .inside rfl hm, hfile, by simpa using hname⟩
  · rw [List.forall₂_map_left_iff]
    refine hrest.matched.imp fun place t ⟨names, hm, hfile, hname⟩ => ?_
    exact ⟨names, messageAt_cons_iff.2 (.inr (.inr ⟨place, rfl, hm⟩)), hfile, hname⟩
  · exact pairwise_places hinner.sorted hrest.sorted hinner.nil_not_mem hrest.nil_not_mem
  · rcases messageAt_cons_iff.1 hm with ⟨rfl, -, -⟩ | ⟨_, _, rfl, -, hbelow⟩ | ⟨_, rfl, hother⟩
    · exact List.mem_cons_self ..
    · exact List.mem_cons_of_mem _
        (List.mem_append_left _ (List.mem_map_of_mem (hinner.complete _ _ _ hbelow)))
    · exact List.mem_cons_of_mem _
        (List.mem_append_right _ (List.mem_map_of_mem (hrest.complete _ _ _ hother)))

section

variable {α β : Type} (a : α) (own : List β) (inside rest : List (α ⊕ β))

theorem lefts_walked : (Sum.inl a :: own.map Sum.inr ++ inside ++ rest).filterMap Sum.getLeft? =
    a :: (inside.filterMap Sum.getLeft? ++ rest.filterMap Sum.getLeft?) := by
  have hown : (own.map Sum.inr).filterMap (Sum.getLeft? (α := α)) = [] := by simp
  simp [hown]

theorem rights_walked : (Sum.inl a :: own.map Sum.inr ++ inside ++ rest).filterMap Sum.getRight? =
    own ++ (inside.filterMap Sum.getRight? ++ rest.filterMap Sum.getRight?) := by
  have hown : (own.map Sum.inr).filterMap (Sum.getRight? (α := α)) = own := by
    rw [List.filterMap_map]
    exact List.filterMap_some
  rw [List.cons_append, List.cons_append, List.filterMap_cons_none rfl, List.filterMap_append,
    List.filterMap_append, hown, List.append_assoc]

end

/-- The message types that are enumerated below a scope are listed in the order of their places. The
induction is on the messages of the scope, with those inside of each. -/
theorem exists_listsMessages {scope : Option String} {around : List String}
    {ds : List (MessageType ⊕ EnumType)} (hscope : IsScope f scope around)
    (hnamed : ∀ place names m, MessageAt messages place names m → isNamed m.name = true)
    (h : walkItems f scope messages = .ok ds) :
    ∃ places, ListsMessages f around messages places (ds.filterMap Sum.getLeft?) := by
  induction messages using messages_induction generalizing scope around ds with
  | nil =>
    cases h
    refine ⟨[], .nil, .nil, fun place names m hm => ?_⟩
    cases hm with
    | here h => cases h
    | inside h hm => cases h
  | null messages => cases h
  | cons m messages ihInside ihBehind =>
    obtain ⟨nested, enums, inside, rest, hnested, -, hinside, hrest, rfl⟩ :=
      walkItems_cons_eq_ok_iff.1 h
    obtain ⟨own, hown, hne⟩ := isNamed_iff.1 (hnamed [0] _ _ (.here rfl))
    rw [hown] at hinside
    obtain ⟨inner, hinner⟩ := ihInside nested hnested (hscope.nested hne)
      (fun place _ _ hm => hnamed (0 :: place) _ _ (.inside rfl (by rwa [hnested]))) hinside
    obtain ⟨others, hothers⟩ := ihBehind hscope
      (fun place _ _ hm => hnamed _ _ _ (messageAt_cons_iff.2 (.inr (.inr ⟨place, rfl, hm⟩)))) hrest
    have hbelow : ListsMessages f (around ++ [shownName m.name]) (m.messages.getD []) inner
        (inside.filterMap Sum.getLeft?) := by
      rw [hnested, hown]
      exact hinner
    have hfull : qualify f.package scope m.name = some (f.join (around ++ [shownName m.name])) := by
      rw [hown]
      exact hscope.qualify_eq own
    rw [lefts_walked]
    exact ⟨_, hbelow.cons hothers rfl rfl hfull⟩

/-! ## Enums in order -/

/-- The enums that are enumerated below a scope are those of its messages, one message after
another. -/
theorem exists_enumsIn_walkItems {scope : Option String} {ds : List (MessageType ⊕ EnumType)}
    (h : walkItems f scope messages = .ok ds) : ∃ lists,
      List.Forall₂ (fun t own => enumsIn f t.fullName t.declaration.enums = .ok own)
        (ds.filterMap Sum.getLeft?) lists ∧
      ds.filterMap Sum.getRight? = lists.flatten := by
  induction messages using messages_induction generalizing scope ds with
  | nil =>
    cases h
    exact ⟨[], .nil, rfl⟩
  | null messages => cases h
  | cons m messages ihInside ihBehind =>
    obtain ⟨nested, own, inside, rest, hnested, hown, hinside, hrest, rfl⟩ :=
      walkItems_cons_eq_ok_iff.1 h
    obtain ⟨inner, hinner, hinnerRights⟩ := ihInside nested hnested hinside
    obtain ⟨others, hothers, hothersRights⟩ := ihBehind hrest
    rw [lefts_walked, rights_walked, hinnerRights, hothersRights, ← List.flatten_append,
      ← List.flatten_cons]
    exact ⟨_, .cons hown (List.rel_append hinner hothers), rfl⟩

/-- The places of items that are listed scope by scope. -/
def placesIn {α : Type} (scopes : List (List Nat)) (lists : List (List α)) :
    List (List Nat × Nat) :=
  (scopes.zip lists).flatMap fun (scope, own) => (List.range own.length).map fun i => (scope, i)

section

variable {α : Type} {scopes : List (List Nat)} {lists : List (List α)}

theorem forall₂_placesIn {IsAt : List Nat × Nat → α → Prop}
    (h : List.Forall₂ (fun scope own => ∀ i a, own[i]? = some a → IsAt (scope, i) a) scopes lists) :
    List.Forall₂ IsAt (placesIn scopes lists) lists.flatten := by
  induction h with
  | nil => exact .nil
  | @cons scope own scopes lists hown _ ih =>
    refine List.rel_append ?_ ih
    rw [List.forall₂_map_left_iff, List.forall₂_iff_get]
    refine ⟨List.length_range, fun i hi hi' => ?_⟩
    simpa using hown i own[i] (List.getElem?_eq_getElem hi')

theorem pairwise_placesIn (hlength : scopes.length = lists.length)
    (hsorted : scopes.Pairwise (· < ·)) : (placesIn scopes lists).Pairwise EnumBefore := by
  refine List.pairwise_flatMap.2 ⟨fun ⟨scope, own⟩ _ => ?_, ?_⟩
  · rw [List.pairwise_map]
    exact List.pairwise_lt_range.imp fun h => .inr ⟨rfl, h⟩
  · rw [← List.map_fst_zip hlength.le, List.pairwise_map] at hsorted
    refine hsorted.imp fun hlt place hplace other hother => ?_
    obtain ⟨i, -, rfl⟩ := List.mem_map.1 hplace
    obtain ⟨j, -, rfl⟩ := List.mem_map.1 hother
    exact .inl hlt

theorem mem_placesIn {P : List Nat → List α → Prop} (h : List.Forall₂ P scopes lists)
    {scope : List Nat} (hscope : scope ∈ scopes) {i : Nat}
    (hi : ∀ own, P scope own → i < own.length) :
    (scope, i) ∈ placesIn scopes lists := by
  induction h with
  | nil => cases hscope
  | @cons first own scopes lists hown _ ih =>
    rcases List.mem_cons.1 hscope with rfl | hscope
    · exact List.mem_append_left _ (List.mem_map.2 ⟨i, List.mem_range.2 (hi own hown), rfl⟩)
    · exact List.mem_append_right _ (ih hscope)

end

/-- There is one message at a place. -/
theorem MessageAt.unique {names' : List String} {m' : Message}
    (h : MessageAt messages place names m) (h' : MessageAt messages place names' m') :
    names = names' ∧ m = m' := by
  induction h generalizing names' with
  | here h =>
    cases h' with
    | here h' =>
      cases h.symm.trans h'
      exact ⟨rfl, rfl⟩
    | inside h' hm' => exact absurd rfl hm'.place_ne_nil
  | inside h hm ih =>
    cases h' with
    | here h' => exact absurd rfl hm.place_ne_nil
    | inside h' hm' =>
      cases h.symm.trans h'
      obtain ⟨rfl, rfl⟩ := ih hm'
      exact ⟨rfl, rfl⟩

/-- The enums of a scope, by their positions. -/
theorem getElem?_enumsIn {scope : Option String} {enums : Option (List (Option Enum))}
    {own : List EnumType} (h : enumsIn f scope enums = .ok own) :
    own.length = (enums.getD []).length ∧ ∀ (i : Nat) (t : EnumType), own[i]? = some t →
      ∃ e, (enums.getD [])[i]? = some (some e) ∧
        t = ⟨qualify f.package scope e.name, f, e⟩ := by
  cases enums with
  | none => cases h
  | some list =>
    have hall := mapM_eq_ok_iff.1 h
    refine ⟨hall.length_eq.symm, fun i t ht => ?_⟩
    obtain ⟨hi, rfl⟩ := List.getElem?_eq_some_iff.1 ht
    have hi' : i < list.length := hall.length_eq ▸ hi
    obtain ⟨e, he, hitem⟩ := bind_eq_ok.1 (hall.get hi' hi)
    refine ⟨e, ?_, (Except.ok.inj hitem).symm⟩
    exact (List.getElem?_eq_getElem hi').trans (congrArg some (declared_eq_ok_iff.1 he))

/-- The last name on the way to a message is its own; those in front of it are the names of the
scope that declares the message. -/
theorem MessageAt.exists_around (h : MessageAt messages place names m) :
    ∃ around, names = around ++ [shownName m.name] ∧
      (around = [] ∧ some m ∈ messages ∨
        ∃ scope outer, MessageAt messages scope around outer ∧
          some m ∈ outer.messages.getD []) := by
  induction h with
  | here h => exact ⟨[], rfl, .inl ⟨rfl, List.mem_of_getElem? h⟩⟩
  | inside h hm ih =>
    obtain ⟨around, rfl, ⟨rfl, hmem⟩ | ⟨scope, outer, houter, hmem⟩⟩ := ih
    · exact ⟨_, rfl, .inr ⟨_, _, .here h, hmem⟩⟩
    · exact ⟨_ :: around, rfl, .inr ⟨_, outer, .inside h houter, hmem⟩⟩

theorem MessageAt.exists_eq_some {messages : Option (List (Option Message))}
    (h : MessageAt (messages.getD []) place names m) :
    ∃ list, messages = some list ∧ MessageAt list place names m := by
  cases messages with
  | some list => exact ⟨list, rfl, h⟩
  | none =>
    cases h with
    | here h => cases h
    | inside h hm => cases h

/-- What is at a place is declared. -/
theorem MessageAt.declares (h : MessageAt messages place names m) (scope : Option String) :
    ∃ t, Declares f scope messages t ∧ t.declaration = m := by
  induction h generalizing scope with
  | here h => exact ⟨_, .here (List.mem_of_getElem? h), rfl⟩
  | @inside _ _ _ _ around _ h hm ih =>
    obtain ⟨nested, hnested, -⟩ := hm.exists_eq_some
    obtain ⟨t, ht, rfl⟩ := ih (qualify f.package scope around.name)
    rw [hnested] at ht
    exact ⟨t, .nested (List.mem_of_getElem? h) hnested ht, rfl⟩

theorem File.exists_declaresMessage (h : f.MessageAt place names m) :
    ∃ t, f.DeclaresMessage t ∧ t.declaration = m := by
  obtain ⟨messages, hmessages, hm⟩ := h.exists_eq_some
  obtain ⟨t, ht, hdeclaration⟩ := hm.declares none
  exact ⟨t, ⟨messages, hmessages, ht⟩, hdeclaration⟩

section

variable {scope : List Nat}

theorem MessageAt.join_ne_empty (hm : f.MessageAt scope names m) (hname : isNamed m.name = true) :
    f.join names ≠ "" := by
  obtain ⟨around, rfl, -⟩ := hm.exists_around
  obtain ⟨own, hown, hne⟩ := isNamed_iff.1 hname
  rw [hown]
  exact f.join_ne_empty around hne

theorem File.enumAt_outermost_iff {position : Nat} {e : Enum} :
    f.EnumAt [] position names e ↔ names = [] ∧ (f.enums.getD [])[position]? = some (some e) := by
  constructor
  · intro h
    cases h with
    | outermost h => exact ⟨rfl, h⟩
    | inside hm h => exact absurd rfl hm.place_ne_nil
  · rintro ⟨rfl, h⟩
    exact .outermost h

theorem MessageAt.enumAt_iff (hm : f.MessageAt scope names m) {position : Nat}
    {names' : List String} {e : Enum} : f.EnumAt scope position names' e ↔
      names' = names ∧ (m.enums.getD [])[position]? = some (some e) := by
  constructor
  · intro h
    cases h with
    | outermost h => exact absurd rfl hm.place_ne_nil
    | inside hm' h =>
      obtain ⟨rfl, rfl⟩ := hm.unique hm'
      exact ⟨rfl, h⟩
  · rintro ⟨rfl, h⟩
    exact .inside hm h

/-- The enums of one scope are listed by their positions, all of them, with their full names. -/
def File.ListsOwn (f : File) (scope : List Nat) (own : List EnumType) : Prop :=
  (∀ position t, own[position]? = some t → ∃ names, f.EnumAt scope position names t.declaration ∧
    t.file = f ∧ ∀ name, t.declaration.name = some name →
      t.fullName = some (f.join (names ++ [name]))) ∧
  ∀ position names e, f.EnumAt scope position names e → position < own.length

theorem listsOwn_of_enumsIn {fullName : Option String} {enums : Option (List (Option Enum))}
    {own : List EnumType} (hscope : IsScope f fullName names)
    (hat : ∀ {position names' e}, f.EnumAt scope position names' e ↔
      names' = names ∧ (enums.getD [])[position]? = some (some e))
    (h : enumsIn f fullName enums = .ok own) : f.ListsOwn scope own := by
  obtain ⟨hlength, heach⟩ := getElem?_enumsIn h
  refine ⟨fun position t ht => ?_, fun position names' e he => ?_⟩
  · obtain ⟨e, he, rfl⟩ := heach position t ht
    refine ⟨names, hat.2 ⟨rfl, he⟩, rfl, fun name hname => ?_⟩
    rw [show e.name = some name from hname]
    exact hscope.qualify_eq name
  · rw [hlength]
    exact (List.getElem?_eq_some_iff.1 (hat.1 he).2).1

end

/-- The types of a file are listed in the order of their places. -/
theorem File.exists_listed (hwalkable : f.IsWalkable)
    (hnamed : ∀ place names m, f.MessageAt place names m → isNamed m.name = true) :
    (∃ places types, f.messageTypes = .ok types ∧
        ListsMessages f [] (f.messages.getD []) places types) ∧
      ∃ places types, f.enumTypes = .ok types ∧ f.ListsEnums places types := by
  obtain ⟨messages, hmessages, -⟩ := hwalkable.messages
  obtain ⟨own, hown⟩ := (exists_enumsIn_iff f none).2 hwalkable.enums
  obtain ⟨ds, hds⟩ := f.exists_declarations hwalkable
  have hwalk : walkItems f none (f.messages.getD []) = .ok ds := by
    rw [File.declarations, hmessages] at hds
    rw [hmessages]
    exact hds
  obtain ⟨places, hplaces⟩ := exists_listsMessages .outermost hnamed hwalk
  obtain ⟨lists, hlists, hrights⟩ := exists_enumsIn_walkItems hwalk
  have hscopes : List.Forall₂ f.ListsOwn ([] :: places) (own :: lists) := by
    refine .cons (listsOwn_of_enumsIn .outermost File.enumAt_outermost_iff hown) ?_
    refine (forall₂_comp hplaces.matched hlists).imp ?_
    rintro place own ⟨t, ⟨names, hm, -, hname⟩, hown⟩
    rw [hname] at hown
    exact listsOwn_of_enumsIn (.message (hm.join_ne_empty (hnamed _ _ _ hm))) hm.enumAt_iff hown
  have hsorted : ([] :: places).Pairwise (· < ·) := by
    refine List.pairwise_cons.2 ⟨fun place hplace => ?_, hplaces.sorted⟩
    obtain ⟨first, place, rfl⟩ :=
      List.exists_cons_of_ne_nil (ne_of_mem_of_not_mem hplace hplaces.nil_not_mem)
    exact List.nil_lt_cons _ _
  have hcomplete : ∀ scope position names e, f.EnumAt scope position names e →
      (scope, position) ∈ placesIn ([] :: places) (own :: lists) := by
    intro scope position names e he
    refine mem_placesIn hscopes ?_ fun own hown => hown.2 position names e he
    cases he with
    | outermost => exact List.mem_cons_self ..
    | inside hm => exact List.mem_cons_of_mem _ (hplaces.complete _ _ _ hm)
  refine ⟨⟨places, _, map_eq_ok.2 ⟨ds, hds, rfl⟩, hplaces⟩, placesIn ([] :: places) (own :: lists),
    own ++ ds.filterMap Sum.getRight?, bind_eq_ok.2 ⟨own, hown, bind_eq_ok.2 ⟨ds, hds, rfl⟩⟩, ?_⟩
  rw [hrights, ← List.flatten_cons]
  exact ⟨forall₂_placesIn (hscopes.imp fun _ _ h => h.1),
    pairwise_placesIn hscopes.length_eq hsorted, hcomplete⟩

/-- In a file without nulls whose messages all have names, message types and enums are listed in the
order of their places, each of them once and with its full name, which is made of the package, the
names of the messages around it and its own name. What is inside of a message follows it
immediately. -/
theorem File.lists_in_preorder {f : File} (hwalkable : f.IsWalkable)
    (hnamed : ∀ place names m, f.MessageAt place names m → isNamed m.name = true) :
    (∃ places types, f.messageTypes = .ok types ∧
        ListsMessages f [] (f.messages.getD []) places types ∧
        ∀ before place after, places = before ++ place :: after →
          ∃ inner rest, after = inner ++ rest ∧
            ∀ p ∈ places, p ∈ inner ↔ place <+: p ∧ p ≠ place) ∧
      ∃ places types, f.enumTypes = .ok types ∧ f.ListsEnums places types := by
  obtain ⟨⟨places, types, htypes, hlists⟩, henums⟩ := File.exists_listed hwalkable hnamed
  refine ⟨⟨places, types, htypes, hlists, ?_⟩, henums⟩
  rintro before place after rfl
  exact exists_inside hlists.sorted

/-- A file with messages inside of messages and enums on three levels. -/
def shopFile : File where
  name := some "shop.proto"
  package := some "shop"
  messages := some [
    some (.mk (some "Order") (some []) (some [
      some (.mk (some "Line") (some []) (some [
        some (.mk (some "Price") (some []) (some []) (some [some ⟨some "Unit", some []⟩]))])
        (some [some ⟨some "Kind", some []⟩])),
      some (.mk (some "Note") (some []) (some []) (some []))]) (some [])),
    some (.mk (some "Label") (some []) (some []) (some []))]
  enums := some [some ⟨some "State", some []⟩]

theorem lists_in_preorder_shop : shopFile.IsWalkable ∧
    (∀ place names m, shopFile.MessageAt place names m → isNamed m.name = true) ∧
    (∃ places types, shopFile.messageTypes = .ok types ∧
      types.map Declared.fullName = [some "shop.Order", some "shop.Order.Line",
        some "shop.Order.Line.Price", some "shop.Order.Note", some "shop.Label"] ∧
      ListsMessages shopFile [] (shopFile.messages.getD []) places types) ∧
    ∃ places enums, shopFile.enumTypes = .ok enums ∧
      enums.map Declared.fullName = [some "shop.State", some "shop.Order.Line.Kind",
        some "shop.Order.Line.Price.Unit"] ∧ shopFile.ListsEnums places enums := by
  have hwalkable : shopFile.IsWalkable := File.exists_enumTypes_iff.1 ⟨_, rfl⟩
  have hnamed : ∀ place names m, shopFile.MessageAt place names m → isNamed m.name = true := by
    intro place names m hm
    obtain ⟨t, ht, rfl⟩ := File.exists_declaresMessage hm
    have hall : (shopFile.messageTypes.map fun types =>
        types.all fun t => isNamed t.declaration.name) = .ok true := by decide
    obtain ⟨types, htypes, hall⟩ := map_eq_ok.1 hall
    exact List.all_eq_true.1 hall t ((File.mem_messageTypes_iff htypes t).2 ht)
  obtain ⟨⟨places, types, htypes, hlists, -⟩, enumPlaces, enums, henums, hlistsEnums⟩ :=
    File.lists_in_preorder hwalkable hnamed
  refine ⟨hwalkable, hnamed, ⟨places, types, htypes, ?_, hlists⟩, enumPlaces, enums, henums, ?_,
    hlistsEnums⟩
  · cases htypes
    decide
  · cases henums
    decide

end Protogen.Schema
