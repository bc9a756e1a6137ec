import Mathlib.Data.List.Dedup
import Mathlib.Data.List.Induction
import Protogen.Proofs.Path
import Protogen.Proofs.Registry

/-!
# The two indexes of a registry

A registry is looked up by URL and by full name, and in both the entry that was added last counts.
A URL closes with the name of its type, so an entry that is found by its name is found by its URL.
The converse holds unless a set declares a standard type under a URL of its own: the entry of the
standard type then is found by its old URL only.

* `mem_entries_iff`: the entries are what is found by URL.
* `findUrl?_of_find?`: what is found by name is found by URL.
* `FileSet.KeepsStandardUrls` are the sets whose declarations of standard types have the URLs of
  these; `indexes_inverse_iff` says that the indexes of these sets are inverse to each other, and of
  no others.
-/

set_option autoImplicit false

namespace Protogen

open Schema

/-- Whether every standard type that a set declares has the URL of the standard type. -/
structure Schema.FileSet.KeepsStandardUrls (s : FileSet) : Prop where
  messages : ∀ t, s.DeclaresMessage t → t.shown ∈ wellKnownTypes →
    t.url = (Registry.wellKnown t.shown).url
  enums : ∀ t, s.DeclaresEnum t → t.shown ∈ wellKnownTypes →
    t.url = (Registry.wellKnown t.shown).url

namespace Registry

variable {r : Registry} {s : FileSet} {e entry : Entry} {entries : List Entry}

/-! ## Entries by URL -/

theorem mem_place (hnodup : (entries.map Entry.url).Nodup) :
    e ∈ place entry entries ↔ e = entry ∨ e ∈ entries ∧ e.url ≠ entry.url := by
  induction entries with
  | nil => simp [place]
  | cons first rest ih =>
    obtain ⟨hfirst, hrest⟩ := List.nodup_cons.1 hnodup
    rw [place]
    by_cases hurl : first.url = entry.url
    · have hother : ∀ e ∈ rest, e.url ≠ entry.url := by
        intro e he heq
        exact hfirst (List.mem_map.2 ⟨e, he, heq.trans hurl.symm⟩)
      rw [if_pos (by simpa using hurl), List.mem_cons, List.mem_cons]
      constructor
      · rintro (rfl | he)
        · exact .inl rfl
        · exact .inr ⟨.inr he, hother e he⟩
      · rintro (rfl | ⟨rfl | he, hne⟩)
        · exact .inl rfl
        · exact absurd hurl hne
        · exact .inr he
    · rw [if_neg (by simpa using hurl), List.mem_cons, List.mem_cons, ih hrest]
      constructor
      · rintro (rfl | rfl | ⟨he, hne⟩)
        · exact .inr ⟨.inl rfl, hurl⟩
        · exact .inl rfl
        · exact .inr ⟨.inr he, hne⟩
      · rintro (rfl | ⟨rfl | he, hne⟩)
        · exact .inr (.inl rfl)
        · exact .inl rfl
        · exact .inr (.inr ⟨he, hne⟩)

theorem nodup_place (hnodup : (entries.map Entry.url).Nodup) :
    ((place entry entries).map Entry.url).Nodup := by
  induction entries with
  | nil => simp [place]
  | cons first rest ih =>
    obtain ⟨hfirst, hrest⟩ := List.nodup_cons.1 hnodup
    rw [place]
    by_cases hurl : first.url = entry.url
    · rw [if_pos (by simpa using hurl)]
      exact List.nodup_cons.2 ⟨hurl ▸ hfirst, hrest⟩
    · rw [if_neg (by simpa using hurl)]
      refine List.nodup_cons.2 ⟨?_, ih hrest⟩
      intro hmem
      obtain ⟨e, he, heq⟩ := List.mem_map.1 hmem
      rcases (mem_place hrest).1 he with rfl | ⟨he, -⟩
      · exact hurl heq.symm
      · exact hfirst (List.mem_map.2 ⟨e, he, heq⟩)

/-- Each URL has one entry, the one that is found by it. -/
theorem entries_spec (r : Registry) :
    (r.entries.map Entry.url).Nodup ∧ ∀ e, e ∈ r.entries ↔ r.findUrl? e.url = some e := by
  obtain ⟨added⟩ := r
  unfold Registry.entries findUrl?
  -- from the entries added first to those added last
  induction added using List.reverseRecOn with
  | nil => simp
  | append_singleton added entry ih =>
    obtain ⟨hnodup, hmem⟩ := ih
    simp only [List.foldl_append, List.foldl_cons, List.foldl_nil, List.reverse_append,
      List.reverse_singleton, List.singleton_append, List.find?_cons]
    refine ⟨nodup_place hnodup, fun e => ?_⟩
    rw [mem_place hnodup]
    by_cases hurl : entry.url = e.url
    · simp [hurl, eq_comm]
    · have hne : e ≠ entry := by
        rintro rfl
        exact hurl rfl
      have hother : (entry.url == e.url) = false := beq_eq_false_iff_ne.2 hurl
      simp only [hne, false_or, hmem, ne_eq, Ne.symm hurl, not_false_eq_true, and_true, hother]

theorem mem_entries_iff : e ∈ r.entries ↔ r.findUrl? e.url = some e := (entries_spec r).2 e

theorem mem_added_of_findUrl? {url : String} (h : r.findUrl? url = some e) :
    e ∈ r.added ∧ e.url = url := by
  have hurl := List.find?_some h
  exact ⟨List.mem_reverse.1 (List.mem_of_find?_eq_some h), beq_iff_eq.1 hurl⟩

theorem exists_findUrl? (h : e ∈ r.added) : ∃ found, r.findUrl? e.url = some found := by
  rw [← Option.isSome_iff_exists, findUrl?, List.find?_isSome]
  exact ⟨e, List.mem_reverse.2 h, beq_self_eq_true _⟩

theorem exists_find? (h : e ∈ r.added) : ∃ found, r.find? e.fullName = some found := by
  rw [← Option.isSome_iff_exists, find?, List.find?_isSome]
  exact ⟨e, List.mem_reverse.2 h, beq_self_eq_true _⟩

theorem byUrl_eq_ok_iff {url : String} : r.byUrl url = .ok e ↔ r.findUrl? url = some e := by
  unfold byUrl
  cases r.findUrl? url <;> simp

theorem lookup_eq_ok_iff_find? {fullName : Option String} :
    r.lookup fullName = .ok e ↔ r.find? fullName = some e := by
  unfold lookup
  cases r.find? fullName <;> simp

theorem contains_iff {fullName : Option String} :
    r.contains fullName = true ↔ ∃ e, r.lookup fullName = .ok e := by
  simp only [contains, Option.isSome_iff_exists, lookup_eq_ok_iff_find?]

/-- An item that is the first of a kind is the first of each smaller kind that it belongs to. -/
theorem find?_of_imp {α : Type} {p q : α → Bool} {items : List α} {a : α}
    (h : items.find? p = some a) (ha : q a = true) (himp : ∀ b ∈ items, q b = true → p b = true) :
    items.find? q = some a := by
  obtain ⟨-, before, after, rfl, hbefore⟩ := List.find?_eq_some_iff_append.1 h
  refine List.find?_eq_some_iff_append.2 ⟨ha, before, after, rfl, fun b hb => ?_⟩
  by_contra hq
  have hp := himp b (List.mem_append_left _ hb) (by simpa using hq)
  simpa [hp] using hbefore b hb

/-! ## Names and URLs -/

/-- The full names that a registry knows, each once. -/
def names (r : Registry) : List (Option String) := (r.added.map Entry.fullName).dedup

theorem eq_some_shownName {fullName : Option String} (h : shownName fullName ∈ wellKnownTypes) :
    fullName = some (shownName fullName) := by
  cases fullName with
  | none => exact absurd h (by decide +kernel)
  | some name => rfl

/-- An entry whose URL closes with its name. -/
def IsAddressed (e : Entry) : Prop :=
  (∃ start, e.url = start ++ "/" ++ shownName e.fullName) ∧ '/' ∉ (shownName e.fullName).toList

/-- A URL that closes with a name has no other name at its end. -/
theorem shownName_eq_of_url (he : IsAddressed e) (hentry : IsAddressed entry)
    (h : e.url = entry.url) : shownName e.fullName = shownName entry.fullName := by
  obtain ⟨⟨start, hstart⟩, hslash⟩ := he
  obtain ⟨⟨start', hstart'⟩, hslash'⟩ := hentry
  have hreverse := congrArg (fun url : String => url.toList.reverse) h
  simp only [hstart, hstart', String.toList_append, List.reverse_append, List.append_assoc]
    at hreverse
  have hname := Path.eq_of_append_slash (by simpa using hslash) (by simpa using hslash') hreverse
  exact String.toList_inj.1 (List.reverse_inj.1 hname)

section

variable (h : ofFileSet s = .ok r)
include h

section

variable (hnodup : s.typeNames.Nodup)
include hnodup

/-- Of two entries with one name, other than that of a standard type, both are the same. -/
theorem eq_of_shownName (he : e ∈ r.added) (hentry : entry ∈ r.added)
    (hshown : shownName e.fullName = shownName entry.fullName)
    (hnot : shownName e.fullName ∉ wellKnownTypes) : e = entry := by
  obtain ⟨messages, enums, hmessages, henums, hadded⟩ := ofFileSet_eq_ok h
  have hdeclared : ∀ e ∈ r.added, shownName e.fullName ∉ wellKnownTypes →
      e ∈ messages.map ofMessage ++ enums.map ofEnum := by
    intro e he hnot
    rw [hadded, List.append_assoc, List.mem_append] at he
    rcases he with he | he
    · obtain ⟨name, hname, rfl⟩ := List.mem_map.1 he
      exact absurd hname hnot
    · exact he
  have hkeys : ((messages.map ofMessage ++ enums.map ofEnum).map
      fun e => shownName e.fullName).Nodup := by
    rw [List.map_append, List.map_map, List.map_map]
    exact (FileSet.perm_typeNames hmessages henums).nodup_iff.2 hnodup
  exact List.inj_on_of_nodup_map hkeys (hdeclared e he hnot)
    (hdeclared entry hentry (hshown ▸ hnot)) hshown

/-- A name that is shown in the generated code is one name. -/
theorem fullName_eq_of_shownName (he : e ∈ r.added) (hentry : entry ∈ r.added)
    (hshown : shownName e.fullName = shownName entry.fullName) : e.fullName = entry.fullName := by
  by_cases hknown : shownName e.fullName ∈ wellKnownTypes
  · rw [eq_some_shownName hknown, hshown, ← eq_some_shownName (hshown ▸ hknown)]
  · rw [eq_of_shownName h hnodup he hentry hshown hknown]

/-- Entries with one name have one URL where the standard types keep theirs. -/
theorem url_eq_of_fullName (hkeeps : s.KeepsStandardUrls) (he : e ∈ r.added)
    (hentry : entry ∈ r.added) (hname : e.fullName = entry.fullName) : e.url = entry.url := by
  by_cases hknown : shownName e.fullName ∈ wellKnownTypes
  · have hurl : ∀ e ∈ r.added, shownName e.fullName ∈ wellKnownTypes →
        e.url = (wellKnown (shownName e.fullName)).url := by
      intro e he hknown
      rcases (mem_added_iff h e).1 he with ⟨name, -, rfl⟩ | ⟨t, ht, rfl⟩ | ⟨t, ht, rfl⟩
      · rfl
      · exact hkeeps.messages t ht hknown
      · exact hkeeps.enums t ht hknown
    rw [hurl e he hknown, hname, ← hurl entry hentry (hname ▸ hknown)]
  · rw [eq_of_shownName h hnodup he hentry (by rw [hname]) hknown]

end

variable (hslash : ∀ name ∈ s.typeNames, '/' ∉ name.toList)
include hslash

theorem isAddressed_of_mem_added (he : e ∈ r.added) : IsAddressed e := by
  obtain ⟨messages, enums, hmessages, henums, -⟩ := ofFileSet_eq_ok h
  have hdeclared : ∀ name ∈ messages.map Declared.shown ++ enums.map Declared.shown,
      '/' ∉ name.toList := fun name hname =>
    hslash name ((FileSet.perm_typeNames hmessages henums).mem_iff.1 hname)
  rcases (mem_added_iff h e).1 he with ⟨name, hname, rfl⟩ | ⟨t, ht, rfl⟩ | ⟨t, ht, rfl⟩
  · have hall : ∀ name ∈ wellKnownTypes, '/' ∉ name.toList := by decide +kernel
    exact ⟨⟨_, rfl⟩, hall name hname⟩
  · refine ⟨⟨_, rfl⟩, hdeclared t.shown (List.mem_append_left _ (List.mem_map_of_mem ?_))⟩
    exact (FileSet.mem_messageTypes_iff hmessages t).2 ht
  · refine ⟨⟨_, rfl⟩, hdeclared t.shown (List.mem_append_right _ (List.mem_map_of_mem ?_))⟩
    exact (FileSet.mem_enumTypes_iff henums t).2 ht

variable (hnodup : s.typeNames.Nodup)
include hnodup

theorem fullName_eq_of_url (he : e ∈ r.added) (hentry : entry ∈ r.added)
    (hurl : e.url = entry.url) : e.fullName = entry.fullName :=
  fullName_eq_of_shownName h hnodup he hentry
    (shownName_eq_of_url (isAddressed_of_mem_added h hslash he)
      (isAddressed_of_mem_added h hslash hentry) hurl)

/-- What is found by its name is found by its URL. -/
theorem findUrl?_of_find? {fullName : Option String} (hfind : r.find? fullName = some e) :
    r.findUrl? e.url = some e := by
  obtain ⟨he, hname⟩ := mem_added_of_lookup (lookup_eq_ok_iff_find?.2 hfind)
  refine find?_of_imp hfind (beq_self_eq_true _) fun b hb hurl => ?_
  have hsame := fullName_eq_of_url h hslash hnodup (List.mem_reverse.1 hb) he (beq_iff_eq.1 hurl)
  rw [beq_iff_eq, hsame, hname]

/-- The entries of a set that keeps the URLs of the standard types are found by their names. -/
theorem lookup_of_mem_entries (hkeeps : s.KeepsStandardUrls) (he : e ∈ r.entries) :
    r.lookup e.fullName = .ok e := by
  have hurl := mem_entries_iff.1 he
  obtain ⟨hadded, -⟩ := mem_added_of_findUrl? hurl
  obtain ⟨found, hfound⟩ := exists_find? hadded
  obtain ⟨hfoundAdded, hname⟩ := mem_added_of_lookup (lookup_eq_ok_iff_find?.2 hfound)
  have hfoundUrl := findUrl?_of_find? h hslash hnodup hfound
  rw [url_eq_of_fullName h hnodup hkeeps hfoundAdded hadded hname, hurl] at hfoundUrl
  rw [lookup_eq_ok_iff_find?, hfound, hfoundUrl]

/-- The entries have the names that are known. -/
theorem mem_names_iff {fullName : Option String} :
    fullName ∈ r.names ↔ fullName ∈ r.entries.map Entry.fullName := by
  rw [names, List.mem_dedup, List.mem_map, List.mem_map]
  constructor
  · rintro ⟨e, he, rfl⟩
    obtain ⟨found, hfound⟩ := exists_find? he
    obtain ⟨-, hname⟩ := mem_added_of_lookup (lookup_eq_ok_iff_find?.2 hfound)
    exact ⟨found, mem_entries_iff.2 (findUrl?_of_find? h hslash hnodup hfound), hname⟩
  · rintro ⟨e, he, rfl⟩
    exact ⟨e, (mem_added_of_findUrl? (mem_entries_iff.1 he)).1, rfl⟩

/-- There are as many entries as names if no two entries have one name. -/
theorem size_eq_iff_nodup :
    r.size = r.names.length ↔ (r.entries.map Entry.fullName).Nodup := by
  have hperm : (r.entries.map Entry.fullName).dedup.Perm r.names := by
    have hnames : r.names.Nodup := List.nodup_dedup _
    rw [List.perm_ext_iff_of_nodup (List.nodup_dedup _) hnames]
    intro name
    rw [List.mem_dedup]
    exact (mem_names_iff h hslash hnodup).symm
  have hsize : r.size = (r.entries.map Entry.fullName).length := (List.length_map ..).symm
  rw [← hperm.length_eq, hsize, ← List.dedup_eq_self]
  constructor
  · intro hlength
    exact (List.dedup_sublist _).eq_of_length hlength.symm
  · intro hsame
    rw [hsame]

/-- No two entries have one name if each is found by its name. -/
theorem nodup_fullNames_iff :
    (r.entries.map Entry.fullName).Nodup ↔ ∀ e ∈ r.entries, r.lookup e.fullName = .ok e := by
  constructor
  · intro hnames e he
    obtain ⟨hadded, -⟩ := mem_added_of_findUrl? (mem_entries_iff.1 he)
    obtain ⟨found, hfound⟩ := exists_find? hadded
    obtain ⟨-, hname⟩ := mem_added_of_lookup (lookup_eq_ok_iff_find?.2 hfound)
    have hmem := mem_entries_iff.2 (findUrl?_of_find? h hslash hnodup hfound)
    rw [lookup_eq_ok_iff_find?, hfound, List.inj_on_of_nodup_map hnames hmem he hname]
  · intro hall
    refine List.Nodup.map_on (fun e he entry hentry hname => ?_) (entries_spec r).1.of_map
    have hlookup := hall e he
    rw [hname, hall entry hentry] at hlookup
    exact (Except.ok.inj hlookup).symm

/-- Where all entries are found by their names, the set keeps the URLs of the standard types. -/
theorem keepsStandardUrls_of_lookup (hall : ∀ e ∈ r.entries, r.lookup e.fullName = .ok e) :
    s.KeepsStandardUrls := by
  have hstandard : ∀ name ∈ wellKnownTypes, ∀ entry, r.lookup (some name) = .ok entry →
      entry.url = (wellKnown name).url := by
    intro name hname entry hentry
    have hadded : wellKnown name ∈ r.added := (mem_added_iff h _).2 (.inl ⟨name, hname, rfl⟩)
    obtain ⟨e, he⟩ := exists_findUrl? hadded
    obtain ⟨headded, heurl⟩ := mem_added_of_findUrl? he
    have hename : e.fullName = some name :=
      fullName_eq_of_url h hslash hnodup headded hadded heurl
    have hlookup := hall e (mem_entries_iff.2 (heurl ▸ he))
    rw [hename, hentry] at hlookup
    rw [Except.ok.inj hlookup, heurl]
  constructor
  · intro t ht hknown
    have hlookup := lookup_ofMessage h hnodup ht
    rw [eq_some_shownName hknown] at hlookup
    exact hstandard t.shown hknown _ hlookup
  · intro t ht hknown
    have hlookup := lookup_ofEnum h hnodup ht
    rw [eq_some_shownName hknown] at hlookup
    exact hstandard t.shown hknown _ hlookup

/-- An entry is found by its URL, and what is found by its name is found by its URL. All entries are
found by their names, and there are as many as names, if and only if the standard types that the set
declares keep their URLs. -/
theorem indexes_inverse_iff :
    (∀ e ∈ r.entries, r.byUrl e.url = .ok e) ∧
      (∀ fullName, r.contains fullName = true →
        ∃ e, r.lookup fullName = .ok e ∧ r.byUrl e.url = .ok e) ∧
      ((∀ e ∈ r.entries, r.lookup e.fullName = .ok e) ↔ s.KeepsStandardUrls) ∧
      (r.size = r.names.length ↔ s.KeepsStandardUrls) := by
  have hlookup : (∀ e ∈ r.entries, r.lookup e.fullName = .ok e) ↔ s.KeepsStandardUrls :=
    ⟨keepsStandardUrls_of_lookup h hslash hnodup,
      fun hkeeps e he => lookup_of_mem_entries h hslash hnodup hkeeps he⟩
  refine ⟨fun e he => byUrl_eq_ok_iff.2 (mem_entries_iff.1 he), fun fullName hknown => ?_, hlookup, ?_⟩
  · obtain ⟨e, he⟩ := contains_iff.1 hknown
    have hfind := lookup_eq_ok_iff_find?.1 he
    exact ⟨e, he, byUrl_eq_ok_iff.2 (findUrl?_of_find? h hslash hnodup hfind)⟩
  · rw [size_eq_iff_nodup h hslash hnodup, nodup_fullNames_iff h hslash hnodup, hlookup]

end

/-! ### A standard type with a URL of its own -/

/-- A file that declares a standard type under another prefix. -/
def clockFile : File :=
  { name := some "google/protobuf/timestamp.proto", package := some standardPackage,
    messages := some [some (.mk (some "Timestamp") (some []) (some []) (some []))],
    urlPrefix := some "type.acme.io" }

/-- The set of this file. -/
def clockFiles : FileSet := ⟨some [some clockFile]⟩

/-- The standard type is still found by its old URL, and by no name. -/
theorem indexes_inverse_iff_clock :
    ∃ r, ofFileSet clockFiles = .ok r ∧ clockFiles.typeNames.Nodup ∧
      (∀ name ∈ clockFiles.typeNames, '/' ∉ name.toList) ∧
      wellKnown "google.protobuf.Timestamp" ∈ r.entries ∧ ¬clockFiles.KeepsStandardUrls ∧
      r.size ≠ r.names.length ∧ ¬∀ e ∈ r.entries, r.lookup e.fullName = .ok e := by
  obtain ⟨r, hr⟩ : ∃ r, ofFileSet clockFiles = .ok r := ⟨_, rfl⟩
  have hnodup : clockFiles.typeNames.Nodup := by decide
  have hslash : ∀ name ∈ clockFiles.typeNames, '/' ∉ name.toList := by decide +kernel
  have hurls : ¬clockFiles.KeepsStandardUrls := by
    intro hkeeps
    have hurl := hkeeps.messages ⟨some "google.protobuf.Timestamp", clockFile, _⟩
      ⟨_, clockFile, rfl, by simp, _, rfl, .here (List.mem_cons_self ..)⟩ (by decide +kernel)
    exact absurd hurl (by decide +kernel)
  obtain ⟨-, -, hlookup, hsize⟩ := indexes_inverse_iff hr hslash hnodup
  refine ⟨r, hr, hnodup, hslash, ?_, hurls, fun heq => hurls (hsize.1 heq),
    fun hall => hurls (hlookup.1 hall)⟩
  cases hr
  decide +kernel

end Registry

end Protogen
