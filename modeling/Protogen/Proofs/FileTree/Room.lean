import Protogen.Proofs.FileTree.Alike

/-!
# Room for files

When directories can be made and texts be stored, and what the tree is then.

* `way` are the locations on the way of a path. A path leads to its destination if directories are
  at all others and neither the path nor a name of it is too long (`locate_eq_ok_iff`).
* `Admits` says when the directories of a path can be made (`exists_makeDirectories`,
  `opened_of_makeDirectories`), `Opened` what comes of it.
* `Accepts` says when a text can be stored in a directory that is made for it (`exists_modifyText`,
  `accepts_of_modifyText`), `Stored` what comes of it.
-/

set_option autoImplicit false

namespace Protogen.FileTree

variable {t u v : FileTree} {l k : Location} {p : Path}

/-! ## Ways -/

/-- The locations from which names are followed. -/
def stops (l : Location) : List String → List Location
  | [] => []
  | name :: names => l :: stops (follow l name) names

/-- The locations on the way of a path, up to its end. -/
def way (t : FileTree) (p : Path) : List Location :=
  stops (t.origin p) p.parts ++ [t.destination p]

/-- A path that is not too long, nor is any of its names. -/
structure IsShort (p : Path) : Prop where
  text : p.text.utf8ByteSize ≤ pathLimit
  names : ∀ name ∈ p.parts, name.utf8ByteSize ≤ nameLimit

theorem stops_concat (l : Location) (names : List String) (name : String) :
    stops l (names ++ [name]) = stops l names ++ [names.foldl follow l] := by
  induction names generalizing l with
  | nil => rfl
  | cons first names ih => rw [List.cons_append, stops, stops, ih, List.foldl_cons, List.cons_append]

/-- The way of a path goes through the end of the one without its last name. -/
theorem stops_eq_way {parts : List String} {name : String} (h : p.parts = parts ++ [name]) :
    stops (t.origin p) p.parts = t.way ⟨p.anchor, parts⟩ := by
  rw [h, stops_concat]
  rfl

theorem way_eq_concat {parts : List String} {name : String} (h : p.parts = parts ++ [name]) :
    t.way p = t.way ⟨p.anchor, parts⟩ ++ [t.destination p] := by
  rw [way, stops_eq_way h]

theorem stops_subset_way_parent (t : FileTree) (p : Path) :
    stops (t.origin p) p.parts ⊆ t.way p.parent := by
  rcases List.eq_nil_or_concat p.parts with hparts | ⟨parts, name, hparts⟩
  · rw [hparts]
    exact List.nil_subset _
  · rw [List.concat_eq_append] at hparts
    rw [stops_eq_way hparts, Path.parent, hparts, List.dropLast_concat]
    exact List.Subset.refl _

theorem origin_mem_way (t : FileTree) (p : Path) : t.origin p ∈ t.way p := by
  unfold way destination
  cases p.parts with
  | nil => exact List.mem_singleton.2 rfl
  | cons name names => exact List.mem_cons_self ..

theorem destination_mem_way (t : FileTree) (p : Path) : t.destination p ∈ t.way p :=
  List.mem_append_right _ (List.mem_singleton.2 rfl)

theorem way_eq_of_workingDirectory (h : u.workingDirectory = t.workingDirectory) (p : Path) :
    u.way p = t.way p := by
  unfold way destination origin
  rw [h]

theorem size_intercalate_dropLast (names : List String) :
    (String.intercalate "/" names.dropLast).utf8ByteSize ≤
      (String.intercalate "/" names).utf8ByteSize := by
  induction names with
  | nil => exact Nat.le_refl _
  | cons first names ih =>
    match names, ih with
    | [], _ => exact Nat.zero_le _
    | [second], _ =>
      rw [String.intercalate_cons_cons, String.utf8ByteSize_append, String.utf8ByteSize_append,
        Nat.add_assoc]
      exact Nat.le_add_right _ _
    | second :: third :: names, ih =>
      have hfirst : ∀ rest : List String, (String.intercalate "/" (first :: second :: rest)).utf8ByteSize =
          (first ++ "/").utf8ByteSize + (String.intercalate "/" (second :: rest)).utf8ByteSize := by
        intro rest
        rw [String.intercalate_cons_cons, String.utf8ByteSize_append]
      rw [List.dropLast_cons_cons] at ih ⊢
      rw [List.dropLast_cons_cons, hfirst, hfirst]
      exact Nat.add_le_add_left ih _

theorem IsShort.parent (h : IsShort p) : IsShort p.parent := by
  refine ⟨?_, fun name hname => h.names name ((List.dropLast_prefix _).subset hname)⟩
  have htext := h.text
  obtain ⟨anchor, names⟩ := p
  have hsize := size_intercalate_dropLast names
  by_cases hdot : anchor = .here ∧ names.dropLast = []
  · have hdotSize : (Path.mk .here []).text.utf8ByteSize ≤ pathLimit := by decide
    rw [Path.parent, hdot.1, hdot.2]
    exact hdotSize
  · have hparent : (Path.mk anchor names.dropLast).text =
        anchor.text ++ String.intercalate "/" names.dropLast := by
      unfold Path.text
      split
      · exact absurd ⟨‹_›, ‹_›⟩ hdot
      · rfl
    have hwhole : (Path.mk anchor names).text = anchor.text ++ String.intercalate "/" names := by
      unfold Path.text
      split
      · rename_i hanchor hnames
        exact absurd ⟨hanchor, congrArg List.dropLast hnames⟩ hdot
      · rfl
    rw [Path.parent, hparent, String.utf8ByteSize_append]
    rw [hwhole, String.utf8ByteSize_append] at htext
    omega

/-- Names are followed if a directory is at each location on the way and none is too long. -/
theorem walk_eq_ok_iff {names : List String} :
    t.walk l names = .ok k ↔
      k = names.foldl follow l ∧ (∀ m ∈ stops l names, t.find? m = some .directory) ∧
        ∀ name ∈ names, name.utf8ByteSize ≤ nameLimit := by
  induction names generalizing l with
  | nil => simp [walk, stops, eq_comm]
  | cons name names ih =>
    rw [walk, stops, List.forall_mem_cons, List.forall_mem_cons, List.foldl_cons]
    rcases t.find? l with _ | _ | _
    · simp
    · simp
    · by_cases hname : nameLimit < name.utf8ByteSize
      · simp [hname, Nat.not_le.2 hname]
      · simp [hname, Nat.not_lt.1 hname, ih]

theorem locate_eq_ok_iff :
    t.locate p = .ok l ↔
      l = t.destination p ∧ (∀ m ∈ stops (t.origin p) p.parts, t.find? m = some .directory) ∧
        IsShort p := by
  unfold locate
  by_cases htext : pathLimit < p.text.utf8ByteSize
  · rw [if_pos htext]
    constructor
    · intro h
      cases h
    · rintro ⟨-, -, hshort⟩
      exact absurd hshort.text (Nat.not_le.2 htext)
  · rw [if_neg htext, walk_eq_ok_iff]
    refine and_congr_right fun _ => and_congr_right fun _ => ?_
    exact ⟨fun h => ⟨Nat.not_lt.1 htext, h⟩, fun h => h.names⟩

/-- What is at the end of a short path is found if directories are all along the way there. -/
theorem isPresent_of_way (hshort : IsShort p)
    (hway : ∀ m ∈ t.way p.parent, t.find? m = some .directory)
    (hthere : t.find? (t.destination p) ≠ none) : t.isPresent p = true := by
  have hlocate : t.locate p = .ok (t.destination p) :=
    locate_eq_ok_iff.2 ⟨rfl, fun m hm => hway m (t.stops_subset_way_parent p hm), hshort⟩
  unfold isPresent nodeAt?
  rw [hlocate]
  exact Option.isSome_iff_ne_none.2 hthere

/-- Where no file is on the way, a short path leads nowhere only because something is missing. -/
theorem locate_eq_error (hshort : IsShort p)
    (hopen : ∀ m ∈ stops (t.origin p) p.parts, ∀ text, t.find? m ≠ some (.file text))
    {fault : FileFault} (h : t.locate p = .error fault) : fault = .notFound := by
  have hwalk : ∀ (names : List String) (l : Location),
      (∀ name ∈ names, name.utf8ByteSize ≤ nameLimit) →
      (∀ m ∈ stops l names, ∀ text, t.find? m ≠ some (.file text)) →
      t.walk l names = .error fault → fault = .notFound := by
    intro names
    induction names with
    | nil =>
      intro l _ _ h
      cases h
    | cons name names ih =>
      intro l hnames hstops h
      rw [stops, List.forall_mem_cons] at hstops
      rw [List.forall_mem_cons] at hnames
      rw [walk] at h
      rcases hfind : t.find? l with _ | text | _ <;> rw [hfind] at h
      · cases h
        rfl
      · exact absurd hfind (hstops.1 text)
      · rw [if_neg (Nat.not_lt.2 hnames.1)] at h
        exact ih _ hnames.2 hstops.2 h
  unfold locate at h
  rw [if_neg (Nat.not_lt.2 hshort.text)] at h
  exact hwalk p.parts _ hshort.names hopen h

/-! ## Directories -/

theorem isDirectory_iff :
    t.isDirectory p = true ↔
      ∃ l, t.locate p = .ok l ∧ t.find? l = some .directory := by
  unfold isDirectory nodeAt?
  cases t.locate p <;> simp

theorem makeDirectory_eq_ok_iff :
    t.makeDirectory p = .ok u ↔
      ∃ l, t.locate p = .ok l ∧ t.find? l = none ∧ u = t.put l .directory := by
  unfold makeDirectory
  rw [bind_eq_ok]
  refine exists_congr fun l => and_congr_right fun _ => ?_
  rcases t.find? l with _ | _
  · simp [pure, Except.pure, eq_comm]
  · simp [throw, throwThe, MonadExceptOf.throw]

/-- Directories can be made along a path: it starts in one, no file is on its way, and it is not too
long. -/
structure Admits (t : FileTree) (p : Path) : Prop where
  short : IsShort p
  origin : t.find? (t.origin p) = some .directory
  way : ∀ m ∈ t.way p, ∀ text, t.find? m ≠ some (.file text)

/-- The second tree is the first one with directories along a path. -/
structure Opened (t : FileTree) (p : Path) (u : FileTree) : Prop where
  workingDirectory : u.workingDirectory = t.workingDirectory
  find? : ∀ l, u.find? l = if l ∈ t.way p then some .directory else t.find? l

namespace Opened

theorem destination (h : Opened t p u) (q : Path) : u.destination q = t.destination q :=
  destination_eq_of_workingDirectory h.workingDirectory q

theorem of_mem (h : Opened t p u) (hl : l ∈ t.way p) : u.find? l = some .directory := by
  rw [h.find?, if_pos hl]

theorem of_not_mem (h : Opened t p u) (hl : l ∉ t.way p) : u.find? l = t.find? l := by
  rw [h.find?, if_neg hl]

end Opened

/-- A tree with directories all along a path is as it is afterwards. -/
theorem admits_of_isDirectory (h : t.isDirectory p = true) : Admits t p ∧ Opened t p t := by
  obtain ⟨l, hlocate, hl⟩ := isDirectory_iff.1 h
  obtain ⟨rfl, hstops, hshort⟩ := locate_eq_ok_iff.1 hlocate
  have hway : ∀ m ∈ t.way p, t.find? m = some .directory := by
    intro m hm
    rcases List.mem_append.1 hm with hm | hm
    · exact hstops m hm
    · rw [List.mem_singleton.1 hm, hl]
  refine ⟨⟨hshort, hway _ (t.origin_mem_way p), fun m hm text => ?_⟩, rfl, fun m => ?_⟩
  · rw [hway m hm]
    simp
  · by_cases hm : m ∈ t.way p
    · rw [if_pos hm, hway m hm]
    · rw [if_neg hm]

/-- A path leads somewhere only from a directory. -/
theorem isDirectory_of_locate {parts : List String} {name : String}
    (hparts : p.parts = parts ++ [name]) (h : t.locate p = .ok l) :
    t.isDirectory ⟨p.anchor, parts⟩ = true := by
  obtain ⟨rfl, hstops, hshort⟩ := locate_eq_ok_iff.1 h
  rw [stops_eq_way hparts] at hstops
  have habove : (Path.mk p.anchor parts) = p.parent := by
    rw [Path.parent, hparts, List.dropLast_concat]
  refine isDirectory_iff.2 ⟨_, locate_eq_ok_iff.2 ⟨rfl, fun m hm => ?_, ?_⟩, ?_⟩
  · exact hstops m (List.mem_append_left _ hm)
  · rw [habove]
    exact hshort.parent
  · exact hstops _ (destination_mem_way t _)

/-- One more directory at the end of a path. -/
theorem Admits.concat {made : FileTree} {parts : List String} {name : String}
    (hparts : p.parts = parts ++ [name]) (habove : Admits t ⟨p.anchor, parts⟩)
    (hmade : Opened t ⟨p.anchor, parts⟩ made) (hshort : IsShort p)
    (hfree : ∀ text, made.find? (t.destination p) ≠ some (.file text))
    (hworking : u.workingDirectory = made.workingDirectory)
    (hu : ∀ l, u.find? l = if l = t.destination p then some .directory else made.find? l) :
    Admits t p ∧ Opened t p u := by
  have hway := way_eq_concat (t := t) hparts
  constructor
  · refine ⟨hshort, habove.origin, fun m hm text => ?_⟩
    by_cases hup : m ∈ t.way ⟨p.anchor, parts⟩
    · exact habove.way m hup text
    · rw [hway, List.mem_append, List.mem_singleton] at hm
      rw [← hmade.of_not_mem hup, hm.resolve_left hup]
      exact hfree text
  · refine ⟨hworking.trans hmade.workingDirectory, fun m => ?_⟩
    simp only [hu, hmade.find?, hway, List.mem_append, List.mem_singleton]
    by_cases hm : m = t.destination p
    · rw [if_pos hm, if_pos (.inr hm)]
    · rw [if_neg hm]
      by_cases hup : m ∈ t.way ⟨p.anchor, parts⟩
      · rw [if_pos hup, if_pos (.inl hup)]
      · rw [if_neg hup, if_neg (not_or.2 ⟨hup, hm⟩)]

/-- What a directory does that is made in the one above it. -/
theorem admits_of_makeDirectory {made : FileTree} {parts : List String} {name : String}
    (hparts : p.parts = parts ++ [name]) (habove : Admits t ⟨p.anchor, parts⟩)
    (hmade : Opened t ⟨p.anchor, parts⟩ made) (h : made.makeDirectory p = .ok u) :
    Admits t p ∧ Opened t p u := by
  obtain ⟨l, hlocate, hl, rfl⟩ := makeDirectory_eq_ok_iff.1 h
  obtain ⟨rfl, -, hshort⟩ := locate_eq_ok_iff.1 hlocate
  have hne := ne_nil_of_find?_ne (t := made) (l := made.destination p) (by simp [hl])
  rw [hmade.destination] at hl hne
  refine Admits.concat hparts habove hmade hshort (by simp [hl]) rfl fun k => ?_
  rw [hmade.destination, find?_put made _ hne]

/-- Directories are only made along paths that admit them. -/
theorem admits_of_makeAll {anchor : Anchor} {names : List String}
    (h : makeAll anchor names t = (.ok (), u)) :
    Admits t ⟨anchor, names.reverse⟩ ∧ Opened t ⟨anchor, names.reverse⟩ u := by
  have hpresent : ∀ {p : Path} {fault : FileFault} {t u : FileTree},
      t.orPresent p fault = (.ok (), u) → t.isDirectory p = true ∧ t = u := by
    intro p fault t u h
    obtain ⟨hresult, rfl⟩ := Prod.mk.inj h
    split at hresult
    · exact ⟨‹_›, rfl⟩
    · cases hresult
  induction names generalizing t u with
  | nil =>
    obtain ⟨hdirectory, rfl⟩ := hpresent h
    exact admits_of_isDirectory hdirectory
  | cons name above ih =>
    have hparts : (Path.mk anchor (name :: above).reverse).parts = above.reverse ++ [name] :=
      List.reverse_cons
    unfold makeAll at h
    dsimp only at h
    split at h
    · -- the directory above is there
      rename_i made hdone
      cases h
      obtain ⟨l, hlocate, -⟩ := makeDirectory_eq_ok_iff.1 hdone
      obtain ⟨habove, hsame⟩ := admits_of_isDirectory (isDirectory_of_locate hparts hlocate)
      exact admits_of_makeDirectory hparts habove hsame hdone
    · -- the directory above has to be made first
      rcases hup : makeAll anchor above t with ⟨result, made⟩
      rw [hup] at h
      cases result with
      | error fault => cases h
      | ok _ =>
        obtain ⟨habove, hmade⟩ := ih hup
        dsimp only at h
        split at h
        · rename_i next hnext
          cases h
          exact admits_of_makeDirectory hparts habove hmade hnext
        · obtain ⟨hdirectory, rfl⟩ := hpresent h
          obtain ⟨l, hlocate, hl⟩ := isDirectory_iff.1 hdirectory
          obtain ⟨rfl, -, hshort⟩ := locate_eq_ok_iff.1 hlocate
          rw [hmade.destination] at hl
          have hfree : ∀ text, made.find? (t.destination ⟨anchor, (name :: above).reverse⟩) ≠
              some (.file text) := by
            intro text
            rw [hl]
            simp
          refine Admits.concat hparts habove hmade hshort hfree rfl fun k => ?_
          by_cases hk : k = t.destination ⟨anchor, (name :: above).reverse⟩
          · rw [if_pos hk, hk, hl]
          · rw [if_neg hk]
    · obtain ⟨hdirectory, rfl⟩ := hpresent h
      exact admits_of_isDirectory hdirectory

/-- Where a path leads, but not to a file, a directory is made or there already. -/
theorem makeDirectory_of_locate (hlocate : t.locate p = .ok l)
    (hfile : ∀ text, t.find? l ≠ some (.file text)) :
    (∃ u, t.makeDirectory p = .ok u) ∨
      t.makeDirectory p = .error .alreadyExists ∧ t.isDirectory p = true := by
  rcases hfind : t.find? l with _ | text | _
  · exact .inl ⟨_, makeDirectory_eq_ok_iff.2 ⟨l, hlocate, hfind, rfl⟩⟩
  · exact absurd hfind (hfile text)
  · refine .inr ⟨?_, isDirectory_iff.2 ⟨l, hlocate, hfind⟩⟩
    unfold makeDirectory
    simp only [hlocate, bind, Except.bind, hfind]
    rfl

theorem Admits.parent {anchor : Anchor} {above : List String} {name : String}
    (h : Admits t ⟨anchor, (name :: above).reverse⟩) : Admits t ⟨anchor, above.reverse⟩ := by
  have hparts : (Path.mk anchor (name :: above).reverse).parts = above.reverse ++ [name] :=
    List.reverse_cons
  have hshort := h.short.parent
  rw [Path.parent, hparts, List.dropLast_concat] at hshort
  refine ⟨hshort, h.origin, fun m hm => h.way m ?_⟩
  rw [way_eq_concat hparts]
  exact List.mem_append_left _ hm

/-- Directories are made along every path that admits them. -/
theorem exists_makeAll {anchor : Anchor} {names : List String}
    (h : Admits t ⟨anchor, names.reverse⟩) : ∃ u, makeAll anchor names t = (.ok (), u) := by
  have hpresent : ∀ {p : Path} {fault : FileFault} {t : FileTree}, t.isDirectory p = true →
      t.orPresent p fault = (.ok (), t) := by
    intro p fault t hdirectory
    rw [orPresent, if_pos hdirectory]
  induction names with
  | nil =>
    exact ⟨t, hpresent (isDirectory_iff.2
      ⟨_, locate_eq_ok_iff.2 ⟨rfl, fun _ hm => absurd hm List.not_mem_nil, h.short⟩, h.origin⟩)⟩
  | cons name above ih =>
    have hparts : (Path.mk anchor (name :: above).reverse).parts = above.reverse ++ [name] :=
      List.reverse_cons
    unfold makeAll
    dsimp only
    cases hlocate : t.locate ⟨anchor, (name :: above).reverse⟩ with
    | ok l =>
      obtain ⟨rfl, -, -⟩ := locate_eq_ok_iff.1 hlocate
      rcases makeDirectory_of_locate hlocate (h.way _ (t.destination_mem_way _)) with
        ⟨u, hu⟩ | ⟨hthere, hdirectory⟩
      · rw [hu]
        exact ⟨u, rfl⟩
      · rw [hthere]
        exact ⟨t, hpresent hdirectory⟩
    | error fault =>
      -- something is missing, so the directory above has to be made first
      obtain rfl := locate_eq_error h.short (fun m hm => h.way m (List.mem_append_left _ hm)) hlocate
      obtain ⟨made, hup⟩ := ih h.parent
      obtain ⟨-, hmade⟩ := admits_of_makeAll hup
      have hmissing : t.makeDirectory ⟨anchor, (name :: above).reverse⟩ = .error .notFound := by
        rw [makeDirectory, hlocate]
        rfl
      have horigin : made.origin ⟨anchor, (name :: above).reverse⟩ =
          t.origin ⟨anchor, (name :: above).reverse⟩ := by
        rw [origin, origin, hmade.workingDirectory]
      have hthere : made.locate ⟨anchor, (name :: above).reverse⟩ =
          .ok (t.destination ⟨anchor, (name :: above).reverse⟩) := by
        refine locate_eq_ok_iff.2 ⟨(hmade.destination _).symm, fun m hm => ?_, h.short⟩
        rw [horigin, stops_eq_way hparts] at hm
        exact hmade.of_mem hm
      have hfile : ∀ text, made.find? (t.destination ⟨anchor, (name :: above).reverse⟩) ≠
          some (.file text) := by
        intro text
        rw [hmade.find?]
        split
        · simp
        · exact h.way _ (t.destination_mem_way _) text
      rw [hmissing]
      dsimp only
      rw [hup]
      rcases makeDirectory_of_locate hthere hfile with ⟨u, hu⟩ | ⟨hpresentFault, hdirectory⟩
      · dsimp only
        rw [hu]
        exact ⟨u, rfl⟩
      · dsimp only
        rw [hpresentFault]
        exact ⟨made, hpresent hdirectory⟩

theorem opened_of_makeDirectories (h : t.makeDirectories p = (.ok (), u)) :
    Admits t p ∧ Opened t p u := by
  unfold makeDirectories at h
  have hall := admits_of_makeAll h
  rwa [List.reverse_reverse] at hall

theorem exists_makeDirectories (h : Admits t p) :
    ∃ u, t.makeDirectories p = (.ok (), u) ∧ Opened t p u := by
  have hreverse : Admits t ⟨p.anchor, p.parts.reverse.reverse⟩ := by rwa [List.reverse_reverse]
  obtain ⟨u, hu⟩ := exists_makeAll hreverse
  exact ⟨u, hu, (opened_of_makeDirectories hu).2⟩

/-- In trees with the same nodes directories are made alike. -/
theorem SameNodes.makeDirectories (h : SameNodes t u) {t' : FileTree}
    (ht : t.makeDirectories p = (.ok (), t')) :
    ∃ u', u.makeDirectories p = (.ok (), u') ∧ SameNodes t' u' := by
  obtain ⟨hadmits, hopened⟩ := opened_of_makeDirectories ht
  have hway := way_eq_of_workingDirectory h.workingDirectory p
  have horigin : u.origin p = t.origin p := by
    rw [origin, origin, h.workingDirectory]
  have hadmits' : Admits u p := by
    refine ⟨hadmits.short, ?_, fun m hm text => ?_⟩
    · rw [horigin, h.find?, hadmits.origin]
    · rw [h.find?]
      exact hadmits.way m (hway ▸ hm) text
  obtain ⟨u', hu', hmade⟩ := exists_makeDirectories hadmits'
  refine ⟨u', hu', ?_, fun l => ?_⟩
  · rw [hmade.workingDirectory, h.workingDirectory, hopened.workingDirectory]
  · rw [hmade.find?, hopened.find?, h.find?, hway]

/-! ## Texts in directories that are made for them -/

/-- A text can be stored at the end of a path, in a directory that is made for it: the directory can
be made, and neither is one at the end nor does the way to it go through there. -/
structure Accepts (t : FileTree) (p : Path) : Prop where
  short : IsShort p
  parent : Admits t p.parent
  free : t.find? (t.destination p) ≠ some .directory
  apart : t.destination p ∉ t.way p.parent

/-- The second tree is the first one with directories along the way of a path and a text at its end,
made from the one that was there. -/
structure Stored (t : FileTree) (p : Path) (f : String → String) (u : FileTree) : Prop where
  workingDirectory : u.workingDirectory = t.workingDirectory
  find? : ∀ l, u.find? l =
    if l = t.destination p then some (.file (f (t.content l)))
    else if l ∈ t.way p.parent then some .directory else t.find? l

namespace Stored

variable {f : String → String}

theorem destination (h : Stored t p f u) (q : Path) : u.destination q = t.destination q :=
  destination_eq_of_workingDirectory h.workingDirectory q

theorem way (h : Stored t p f u) (q : Path) : u.way q = t.way q :=
  way_eq_of_workingDirectory h.workingDirectory q

theorem file (h : Stored t p f u) :
    u.find? (t.destination p) = some (.file (f (t.content (t.destination p)))) := by
  rw [h.find?, if_pos rfl]

theorem directory (h : Stored t p f u) (hapart : t.destination p ∉ t.way p.parent)
    (hl : l ∈ t.way p.parent) : u.find? l = some .directory := by
  have hne : l ≠ t.destination p := by
    rintro rfl
    exact hapart hl
  rw [h.find?, if_neg hne, if_pos hl]

theorem other (h : Stored t p f u) (hne : l ≠ t.destination p) (hl : l ∉ t.way p.parent) :
    u.find? l = t.find? l := by
  rw [h.find?, if_neg hne, if_neg hl]

end Stored

theorem accepts_of_modifyText {made : FileTree} {f : String → String}
    (hmade : t.makeDirectories p.parent = (.ok (), made)) (h : made.modifyText p f = .ok u) :
    Accepts t p ∧ Stored t p f u := by
  obtain ⟨hadmits, hopened⟩ := opened_of_makeDirectories hmade
  obtain ⟨l, hlocate, hfree, rfl⟩ := modifyText_eq_ok_iff.1 h
  obtain ⟨rfl, -, hshort⟩ := locate_eq_ok_iff.1 hlocate
  have hne := ne_nil_of_find?_ne hfree
  rw [hopened.destination] at hfree hne
  have hapart : t.destination p ∉ t.way p.parent := fun hmem => hfree (hopened.of_mem hmem)
  have hsame : made.find? (t.destination p) = t.find? (t.destination p) := hopened.of_not_mem hapart
  refine ⟨⟨hshort, hadmits, hsame ▸ hfree, hapart⟩, hopened.workingDirectory, fun k => ?_⟩
  rw [hopened.destination, find?_put made _ hne]
  by_cases hk : k = t.destination p
  · rw [if_pos hk, if_pos hk, hk, content, hsame]
    rfl
  · rw [if_neg hk, if_neg hk]
    exact hopened.find? k

/-- Directories stay where a text is stored. -/
theorem Stored.keeps_directory {f : String → String} (h : Stored t p f u) (haccepts : Accepts t p)
    (hl : t.find? l = some .directory) : u.find? l = some .directory := by
  by_cases hway : l ∈ t.way p.parent
  · exact h.directory haccepts.apart hway
  · have hne : l ≠ t.destination p := fun heq => haccepts.free (heq ▸ hl)
    rw [h.other hne hway, hl]

theorem exists_modifyText (h : Accepts t p) (f : String → String) :
    ∃ made u, t.makeDirectories p.parent = (.ok (), made) ∧ made.modifyText p f = .ok u := by
  obtain ⟨made, hmade, hopened⟩ := exists_makeDirectories h.parent
  refine ⟨made, _, hmade, modifyText_eq_ok_iff.2 ⟨t.destination p, ?_, ?_, rfl⟩⟩
  · refine locate_eq_ok_iff.2 ⟨(hopened.destination p).symm, fun m hm => ?_, h.short⟩
    have horigin : made.origin p = t.origin p := by
      rw [origin, origin, hopened.workingDirectory]
    rw [horigin] at hm
    exact hopened.of_mem (t.stops_subset_way_parent p hm)
  · rw [hopened.of_not_mem h.apart]
    exact h.free

end Protogen.FileTree
