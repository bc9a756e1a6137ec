import Protogen.Proofs.FileTree.Room

/-!
# Trees that grow

* `nodeAt?_eq_some_iff`: what it takes that a node is at the end of a path.
* `Grows t places u`: the files and directories of one tree are such in the other; only at some places
  may a file have another text or be new, and whatever else is new is a directory.
* `Grows.refl`, `Grows.trans` and `Grows.mono` put steps together.
* `Grows.of_stored` is a text that is stored in a directory made for it, `Grows.of_sameShape` are
  texts that are replaced.
* `Grows.nodeAt?`: what is at the end of a path stays there; `Grows.fileAt` says so of files.
-/

set_option autoImplicit false

namespace Protogen.FileTree

variable {t u v : FileTree} {l : Location} {p : Path} {places more : List Location} {node : Node}

/-- A node is at the end of a path if directories are all along the way there and neither the path nor
a name of it is too long. -/
theorem nodeAt?_eq_some_iff :
    t.nodeAt? p = some node ↔
      t.find? (t.destination p) = some node ∧
        (∀ m ∈ stops (t.origin p) p.parts, t.find? m = some .directory) ∧ IsShort p := by
  unfold nodeAt?
  constructor
  · intro h
    cases hlocate : t.locate p with
    | error fault =>
      rw [hlocate] at h
      cases h
    | ok l =>
      obtain ⟨rfl, hway⟩ := locate_eq_ok_iff.1 hlocate
      rw [hlocate] at h
      exact ⟨h, hway⟩
  · rintro ⟨hnode, hway⟩
    rw [locate_eq_ok_iff.2 ⟨rfl, hway⟩]
    exact hnode

/-- The second tree has the files and directories of the first. Elsewhere than at some places the
texts are the same, and only directories are new. -/
structure Grows (t : FileTree) (places : List Location) (u : FileTree) : Prop where
  workingDirectory : u.workingDirectory = t.workingDirectory
  keeps : ∀ l node, t.find? l = some node →
    ∃ kept, u.find? l = some kept ∧ kept.isDirectory = node.isDirectory
  other : ∀ l, l ∉ places → u.find? l = t.find? l ∨ t.find? l = none ∧ u.find? l = some .directory

namespace Grows

theorem refl (t : FileTree) : Grows t [] t :=
  ⟨rfl, fun _ node h => ⟨node, h, rfl⟩, fun _ _ => .inl rfl⟩

theorem destination (h : Grows t places u) (p : Path) : u.destination p = t.destination p :=
  destination_eq_of_workingDirectory h.workingDirectory p

theorem mono (h : Grows t places u) (hsubset : places ⊆ more) : Grows t more u :=
  ⟨h.workingDirectory, h.keeps, fun l hl => h.other l fun hmem => hl (hsubset hmem)⟩

/-- One step after the other. -/
theorem trans (h : Grows t places u) (h' : Grows u more v) : Grows t (places ++ more) v := by
  refine ⟨h'.workingDirectory.trans h.workingDirectory, fun l node hnode => ?_, fun l hl => ?_⟩
  · obtain ⟨kept, hkept, hkind⟩ := h.keeps l node hnode
    obtain ⟨last, hlast, hkind'⟩ := h'.keeps l kept hkept
    exact ⟨last, hlast, hkind'.trans hkind⟩
  · rw [List.mem_append, not_or] at hl
    rcases h.other l hl.1 with hsame | ⟨hnone, hnew⟩
    · rw [← hsame]
      exact h'.other l hl.2
    · rcases h'.other l hl.2 with hsame' | ⟨hnone', -⟩
      · exact .inr ⟨hnone, hsame'.trans hnew⟩
      · rw [hnew] at hnone'
        cases hnone'

/-- A directory stays one. -/
theorem directory (h : Grows t places u) (hl : t.find? l = some .directory) :
    u.find? l = some .directory := by
  obtain ⟨kept, hkept, hkind⟩ := h.keeps l _ hl
  cases kept with
  | directory => exact hkept
  | file text => cases hkind

/-- Elsewhere than at the places a file has the text that it had. -/
theorem file_iff {text : String} (h : Grows t places u) (hl : l ∉ places) :
    u.find? l = some (.file text) ↔ t.find? l = some (.file text) := by
  rcases h.other l hl with hsame | ⟨hnone, hnew⟩
  · rw [hsame]
  · rw [hnone, hnew]
    simp

/-- A path leads where it did to what is still there. -/
theorem nodeAt? (h : Grows t places u) (hnode : t.nodeAt? p = some node) :
    ∃ kept, u.nodeAt? p = some kept ∧ kept.isDirectory = node.isDirectory := by
  obtain ⟨hfind, hstops, hshort⟩ := nodeAt?_eq_some_iff.1 hnode
  obtain ⟨kept, hkept, hkind⟩ := h.keeps _ _ hfind
  have horigin : u.origin p = t.origin p := by
    rw [origin, origin, h.workingDirectory]
  refine ⟨kept, nodeAt?_eq_some_iff.2 ⟨?_, fun m hm => ?_, hshort⟩, hkind⟩
  · rw [h.destination]
    exact hkept
  · rw [horigin] at hm
    exact h.directory (hstops m hm)

/-- A path that led to a file still does. -/
theorem fileAt {old : String} (h : Grows t places u) (hold : t.nodeAt? p = some (.file old)) :
    ∃ new, u.nodeAt? p = some (.file new) := by
  obtain ⟨kept, hkept, hkind⟩ := h.nodeAt? hold
  cases kept with
  | directory => cases hkind
  | file new => exact ⟨new, hkept⟩

/-- A text is stored at the end of a path, in a directory that is made for it. -/
theorem of_stored {f : String → String} (haccepts : Accepts t p) (h : Stored t p f u) :
    Grows t [t.destination p] u := by
  refine ⟨h.workingDirectory, fun l node hnode => ?_, fun l hl => ?_⟩
  · by_cases hend : l = t.destination p
    · subst hend
      refine ⟨_, h.file, ?_⟩
      cases node with
      | file text => rfl
      | directory => exact absurd hnode haccepts.free
    · by_cases hway : l ∈ t.way p.parent
      · refine ⟨_, h.directory haccepts.apart hway, ?_⟩
        cases node with
        | file text => exact absurd hnode (haccepts.parent.way l hway text)
        | directory => rfl
      · exact ⟨node, (h.other hend hway).trans hnode, rfl⟩
  · have hend : l ≠ t.destination p := fun heq => hl (List.mem_singleton.2 heq)
    by_cases hway : l ∈ t.way p.parent
    · rw [h.directory haccepts.apart hway]
      rcases hfind : t.find? l with _ | text | _
      · exact .inr ⟨rfl, rfl⟩
      · exact absurd hfind (haccepts.parent.way l hway text)
      · exact .inl rfl
    · exact .inl (h.other hend hway)

/-- Texts are replaced at some places. -/
theorem of_sameShape (h : SameShape t u) (hother : ∀ l, l ∉ places → u.find? l = t.find? l) :
    Grows t places u := by
  refine ⟨h.workingDirectory, fun l node hnode => ?_, fun l hl => .inl (hother l hl)⟩
  have hkind := h.kind l
  rw [hnode] at hkind
  obtain ⟨kept, hkept, hsame⟩ := Option.map_eq_some_iff.1 hkind
  exact ⟨kept, hkept, hsame⟩

end Grows

end Protogen.FileTree
